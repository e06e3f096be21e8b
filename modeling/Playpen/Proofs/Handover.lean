import Playpen.Guest.Script
import Playpen.Proofs.Engine
import Playpen.Proofs.Lines
import Playpen.Proofs.Utf8

/-!
# What a program is handed

A source that is accepted reaches the program as it is: the block of arguments is cut
at its zero bytes into the arguments of the interpreter, the prelude and the source,
so it is the block of no other source (`Arguments.arrive_intact`). No interpreter is
started for a source that cannot be handed over, by a run or by a check, whatever else
goes on.
-/

namespace Playpen

namespace Arguments

variable {args args' interpreter interpreter' : List String}
  {preamble preamble' source source' : String}

/-! ## Blocks of arguments -/

/-- An argument as it is handed over. -/
def bytesOf (arg : String) : Bytes := Utf8.encode arg.toList

/-- The bytes of the block of arguments. -/
def blockBytes (args : List String) : Bytes := Utf8.encode (block args)

/-- What stands before each zero byte. -/
def cutBytes (bs : Bytes) : List Bytes := (Text.split 0 bs).dropLast

/-- The preludes that there are. -/
def preludes : List String := [executePrelude, checkPrelude]

theorem isPassable_iff : isPassable source ↔ '\x00' ∉ source.toList := by
  rw [isPassable, Bool.not_eq_true', ← Bool.not_eq_true, List.contains_iff_mem]

/-- The block is cut into the arguments. -/
theorem cutBlock_block (h : ∀ arg ∈ args, isPassable arg) : cutBlock (block args) = args := by
  have hflat : block args = (args.map String.toList).flatMap (· ++ ['\x00']) := by
    rw [block, List.flatMap_map]
  have hpieces : ∀ piece ∈ args.map String.toList, '\x00' ∉ piece :=
    List.forall_mem_map.2 fun arg harg => isPassable_iff.1 (h arg harg)
  rw [cutBlock, hflat, Text.split_flatMap_append hpieces, List.dropLast_concat, List.map_map]
  exact (List.map_congr_left fun arg _ => String.ofList_toList).trans (List.map_id args)

/-- The bytes of the block are the bytes of each argument and a zero. -/
theorem blockBytes_eq (args : List String) :
    blockBytes args = (args.map bytesOf).flatMap (· ++ [0]) := by
  rw [blockBytes, block, Utf8.encode, List.flatMap_assoc, List.flatMap_map]
  refine congrArg (List.flatMap · args) (funext fun arg => ?_)
  rw [List.flatMap_append]
  rfl

theorem cutBytes_blockBytes (h : ∀ arg ∈ args, isPassable arg) :
    cutBytes (blockBytes args) = args.map bytesOf := by
  have hpieces : ∀ piece ∈ args.map bytesOf, 0 ∉ piece :=
    List.forall_mem_map.2 fun arg harg => Utf8.zero_not_mem_encode (isPassable_iff.1 (h arg harg))
  rw [cutBytes, blockBytes_eq, Text.split_flatMap_append hpieces, List.dropLast_concat]

theorem bytesOf_injective : Function.Injective bytesOf := by
  intro arg arg' h
  have hdecode := congrArg Utf8.decode h
  rw [bytesOf, bytesOf, Utf8.decode_encode, Utf8.decode_encode] at hdecode
  exact String.toList_injective hdecode

/-- The block tells the arguments. -/
theorem eq_of_blockBytes_eq (h : ∀ arg ∈ args, isPassable arg) (h' : ∀ arg ∈ args', isPassable arg)
    (heq : blockBytes args = blockBytes args') : args = args' := by
  have hcut := congrArg cutBytes heq
  rw [cutBytes_blockBytes h, cutBytes_blockBytes h'] at hcut
  exact (List.map_inj_right fun _ _ h => bytesOf_injective h).1 hcut

theorem isPassable_append (source source' : String) :
    isPassable (source ++ source') ↔ isPassable source ∧ isPassable source' := by
  simp only [isPassable_iff, String.toList_append, List.mem_append, not_or]

theorem isPassable_ofList {cs : List Char} (h : source = String.ofList cs)
    (hcs : cs.contains '\x00' = false) : isPassable source := by
  rw [isPassable, h, String.toList_ofList, hcs]
  rfl

theorem isPassable_executePrelude : isPassable executePrelude := by
  -- The parts that the prelude is put together from are looked through one by one.
  unfold executePrelude
  simp only [isPassable_append]
  repeat' apply And.intro
  all_goals exact isPassable_ofList rfl rfl

theorem isPassable_checkPrelude : isPassable checkPrelude := by
  unfold checkPrelude
  simp only [isPassable_append]
  repeat' apply And.intro
  all_goals exact isPassable_ofList rfl rfl

/-- With a prelude all can be handed over if the source and the arguments of the
    interpreter can. -/
theorem isPassable_withPrelude (hargs : ∀ arg ∈ interpreter, isPassable arg)
    (hpreamble : preamble ∈ preludes) (hsource : isPassable source) :
    ∀ arg ∈ withPrelude interpreter preamble source, isPassable arg := by
  have hprelude : isPassable preamble := by
    rw [preludes, List.mem_cons, List.mem_singleton] at hpreamble
    rcases hpreamble with rfl | rfl
    · exact isPassable_executePrelude
    · exact isPassable_checkPrelude
  rw [withPrelude, List.forall_mem_append]
  refine ⟨hargs, ?_⟩
  simp only [List.forall_mem_cons, hprelude, hsource]
  decide

theorem withPrelude_inj
    (h : withPrelude interpreter preamble source = withPrelude interpreter' preamble' source') :
    interpreter = interpreter' ∧ preamble = preamble' ∧ source = source' := by
  obtain ⟨hinterpreter, hrest⟩ := List.append_inj' h rfl
  simp only [List.cons.injEq, true_and, and_true] at hrest
  exact ⟨hinterpreter, hrest⟩

end Arguments

/-! ## What an interpreter is started with -/

/-- An interpreter that can be started, and that sees of its arguments the block
    alone. -/
structure Interpreter.Reads (i : Interpreter) (f : Bytes → Guest.Behaviour) : Prop where
  initializes : i.image.initializes
  start? : i.image.start? = some (.function 0 0)
  run (args : List String) : i.image.run args = f (Arguments.blockBytes args)

theorem Interpreter.Reads.start {i : Interpreter} {f : Bytes → Guest.Behaviour} (h : i.Reads f)
    (args : List String) : i.start args = .ok (f (Arguments.blockBytes args)) := by
  rw [Interpreter.start, h.initializes, h.start?, h.run]
  rfl

/-! ## What is not handed over -/

theorem Arguments.not_isBlank {source : String} (h : Arguments.isPassable source = false) :
    ¬Text.isBlank source.toList := by
  intro hblank
  rw [Arguments.isPassable, Bool.not_eq_false'] at h
  exact absurd (List.all_eq_true.1 hblank _ (List.contains_iff_mem.1 h)) (by decide)

namespace Race

variable {s : Session} {r : Request} {x y : Race} {m : Move}

/-- The worker has not begun, or has ended without an evaluation. -/
def Refused (x : Race) : Prop :=
  ∀ w, x.worker? = some w → w = .queued ∨ w = .done (.failed "" (.host Arguments.notPassable))

theorem Refused.start (r : Request) (epoch : Nat) : Refused (.start r epoch) := by
  intro w hw
  rw [Race.start] at hw
  split at hw
  · cases hw
  · exact .inl (Option.some.inj hw).symm

theorem Refused.step (hsource : Arguments.isPassable r.source = false) (hx : Refused x)
    (h : x.step s r m = some y) : Refused y := by
  intro w hw
  -- The worker changes in its own moves, of which only the first can be made, and in
  -- `cancel`, which changes nothing about one that does not evaluate.
  cases m with
  | worker m =>
    obtain ⟨w', hstep, rfl⟩ := Option.map_eq_some_iff.1 h
    obtain ⟨v, hv, hstep⟩ := Option.bind_eq_some_iff.1 hstep
    obtain rfl := Option.some.inj hw
    rcases hx v hv with rfl | rfl
    · cases m with
      | begin =>
        obtain rfl := Option.some.inj hstep
        rw [Worker.begin, hsource]
        exact .inr rfl
      | evaluate m => cases hstep
      | conclude => cases hstep
    · cases m <;> cases hstep
  | ring | tick =>
    obtain rfl := Option.some.inj h
    exact hx w hw
  | take | giveUp | wake =>
    rw [Race.step] at h
    split at h <;> cases h
    all_goals exact hx w hw
  | cancel =>
    rw [Race.step] at h
    split at h <;> cases h
    obtain ⟨v, hv, rfl⟩ := Option.map_eq_some_iff.1 hw
    rcases hx v hv with rfl | rfl
    · exact .inl rfl
    · exact .inr rfl

theorem run_refused {epoch : Nat} {moves : List Move}
    (hsource : Arguments.isPassable r.source = false)
    (h : (start r epoch).run s r moves = some x) : Refused x :=
  run_induction (fun hx hm => hx.step hsource hm) h (.start r epoch)

end Race

namespace Session

/-- The outcome of a request whose source cannot be handed over is this failure, and a
    caller is told of it or, if the time is over before, of that. -/
structure Refuses (s : Session) (r : Request) : Prop where
  run : s.run r = .failed "" (.host "source contains a NUL byte")
  evaluate (limit? : Option Duration) :
    s.evaluate limit? r = some (.failed "" (.host "source contains a NUL byte"))
  returns {epoch : Nat} {moves : List Race.Move} {x : Race} {o : Outcome} :
    (Race.start r epoch).run s r moves = some x → x.caller = .returned o →
      o = .failed "" (.host "source contains a NUL byte") ∨ o = .timedOut r.timeout ∧ x.rung

theorem refuses {r : Request} (hsource : Arguments.isPassable r.source = false) (s : Session) :
    s.Refuses r where
  run := by
    rw [Session.run, if_neg (Arguments.not_isBlank hsource), Session.evaluate, hsource]
    rfl
  evaluate limit? := by
    rw [Session.evaluate, hsource]
    rfl
  returns {epoch moves x o} h hcaller := by
    have hsound := (Race.run_inv (Arguments.not_isBlank hsource) h).caller
    rw [hcaller] at hsound
    refine hsound.imp_left fun hworked => ?_
    have hevaluate := hworked.left
    rw [Session.evaluate, hsource] at hevaluate
    exact (Option.some.inj hevaluate).symm

end Session

/-- The source that an activity is about. -/
def Activity.source : Activity → String
  | .run _ r _ => r.source
  | .check source _ => source

/-- Of all that goes on on an interpreter, nothing is ever evaluated for a source that
    cannot be handed over. -/
theorem Engine.not_evaluated {i : Interpreter} {epoch n : Nat} {moves : List Engine.Move}
    {x : Engine} {u : Engine.Use} (h : (start i epoch).run moves = some x)
    (hu : x.uses[n]? = some u) (hsource : Arguments.isPassable u.activity.source = false) :
    (x.observe u).evaluation? = none := by
  have hobserve : (x.observe u).source = u.activity.source := by
    rw [observe]
    cases u.activity <;> rfl
  have hsound := (run_inv h).1.sound hu
  rw [← hobserve] at hsource
  refine Option.eq_none_iff_forall_ne_some.2 fun e he => ?_
  -- A run is a race of its own as far as it has got, and a check was only begun if its
  -- source can be handed over.
  cases ha : x.observe u with
  | run interrupt r race =>
    rw [ha] at hsound hsource he
    obtain ⟨-, -, epoch, moves, hrace⟩ := hsound
    rcases Race.run_refused hsource hrace _ (Activity.evaluation?_run.1 he) with hw | hw
    · cases hw
    · cases hw
  | check source e? =>
    rw [ha] at hsound hsource he
    obtain ⟨hasks, -⟩ := hsound.2 e he
    rw [Bool.or_eq_false_iff, Bool.not_eq_false'] at hasks
    exact Bool.false_ne_true (hsource.symm.trans hasks.2)

theorem SyntaxCheck.run_of_not_isPassable {source : String}
    (h : Arguments.isPassable source = false) (i? : Option Interpreter) :
    run i? source = some .valid := by
  cases i? with
  | none => rfl
  | some i =>
    rw [run, h]
    exact if_pos (Bool.or_true _)

namespace Arguments

/-- The block of arguments for a source that is accepted is cut at its zero characters,
    or at its zero bytes, into the arguments of the interpreter, then the prelude, and
    at last the source; so another block is made for other arguments of the interpreter,
    the other prelude or another source. An interpreter that sees nothing of its
    arguments but the block is started with such a block, whether the source is run or
    checked. If the source has a zero character, a run comes to a failure that says so,
    without output, and a check to no error; whatever goes on on the interpreter, nothing
    is evaluated for such a source. -/
theorem arrive_intact :
    (∀ interpreter source, (∀ arg ∈ interpreter, '\x00' ∉ arg.toList) → isPassable source →
      ∀ preamble ∈ preludes,
        cutBlock (block (withPrelude interpreter preamble source)) =
          interpreter ++ ["-e", preamble, "--", source] ∧
        cutBytes (blockBytes (withPrelude interpreter preamble source)) =
          (interpreter ++ ["-e", preamble, "--", source]).map bytesOf ∧
        (cutBytes (blockBytes (withPrelude interpreter preamble source))).getLast? =
          some (bytesOf source) ∧
        ∀ interpreter' source', (∀ arg ∈ interpreter', '\x00' ∉ arg.toList) →
          isPassable source' → ∀ preamble' ∈ preludes,
            blockBytes (withPrelude interpreter preamble source) =
                blockBytes (withPrelude interpreter' preamble' source') →
              interpreter = interpreter' ∧ preamble = preamble' ∧ source = source') ∧
    (∀ (i : Interpreter) f, i.Reads f → (∀ arg ∈ i.arguments, '\x00' ∉ arg.toList) →
      ∀ (interrupt : Bool) (r : Request), isPassable r.source → ∃ run check : Bytes,
        (Session.prepare ⟨i, interrupt⟩ r).enter.phase = .running (f run) ∧
        cutBytes run = (i.arguments ++ ["-e", executePrelude, "--", r.source]).map bytesOf ∧
        (SyntaxCheck.prepare i r.source).enter.phase = .running (f check) ∧
        cutBytes check = (i.arguments ++ ["-e", checkPrelude, "--", r.source]).map bytesOf) ∧
    ∀ source, '\x00' ∈ source.toList →
      isPassable source = false ∧
      (∀ (s : Session) (r : Request), r.source = source → s.Refuses r) ∧
      (∀ i?, SyntaxCheck.run i? source = some .valid) ∧
      ∀ i epoch moves x (n : Nat) u, (Engine.start i epoch).run moves = some x →
        x.uses[n]? = some u → u.activity.source = source →
          (x.observe u).evaluation? = none := by
  have hall {interpreter : List String} {source : String}
      (h : ∀ arg ∈ interpreter, '\x00' ∉ arg.toList) (hsource : isPassable source) :
      ∀ preamble ∈ preludes, ∀ arg ∈ withPrelude interpreter preamble source, isPassable arg :=
    fun preamble hpreamble =>
      isPassable_withPrelude (fun arg harg => isPassable_iff.2 (h arg harg)) hpreamble hsource
  refine ⟨fun interpreter source hargs hsource preamble hpreamble => ?_,
    fun i f hreads hargs interrupt r hsource => ?_, fun source hzero => ?_⟩
  · have hpassable := hall hargs hsource preamble hpreamble
    have hcut := cutBytes_blockBytes hpassable
    refine ⟨cutBlock_block hpassable, hcut, ?_,
      fun interpreter' source' hargs' hsource' preamble' hpreamble' h => ?_⟩
    · rw [hcut, withPrelude, List.map_append, List.getLast?_append]
      rfl
    · exact withPrelude_inj (eq_of_blockBytes_eq hpassable
        (hall hargs' hsource' preamble' hpreamble') h)
  · have hrun := hall hargs hsource executePrelude List.mem_cons_self
    have hcheck := hall hargs hsource checkPrelude (List.mem_cons_of_mem _ List.mem_cons_self)
    refine ⟨_, _, ?_, cutBytes_blockBytes hrun, ?_, cutBytes_blockBytes hcheck⟩
    · rw [Session.prepare, hreads.start]
      rfl
    · rw [SyntaxCheck.prepare, hreads.start]
      rfl
  · have hsource : isPassable source = false :=
      Bool.eq_false_iff.2 fun h => isPassable_iff.1 h hzero
    refine ⟨hsource, ?_, SyntaxCheck.run_of_not_isPassable hsource, ?_⟩
    · rintro s r rfl
      exact Session.refuses hsource s
    · rintro i epoch moves x n u h hu rfl
      exact Engine.not_evaluated h hu hsource

/-- Every program prints its arguments as they were handed over. -/
def echoing : Interpreter where
  image :=
    { start? := some (.function 0 0)
      missing? := none
      initializes := true
      run := Guest.Script.behaviour [.arguments 1] }
  arguments := ["", "é"]
  capacity := 64

/-- An empty argument counts, and a source may look like arguments. -/
theorem arrive_intact_of_dashes :
    (∀ arg ∈ echoing.arguments, '\x00' ∉ arg.toList) ∧ isPassable "-- -e" ∧
    (∃ block,
      (Session.prepare ⟨echoing, true⟩ { source := "-- -e" }).enter.phase =
        .running (.write 1 block (.halt .returned)) ∧
      cutBytes block = ["", "é", "-e", executePrelude, "--", "-- -e"].map bytesOf) ∧
    '\x00' ∈ "a\x00".toList ∧ SyntaxCheck.run (some echoing) "a\x00" = some .valid := by
  have hargs : ∀ arg ∈ echoing.arguments, '\x00' ∉ arg.toList := by decide
  have hsource : isPassable "-- -e" := by decide
  have hzero : '\x00' ∈ "a\x00".toList := by decide
  obtain ⟨-, hstarts, hrefused⟩ := arrive_intact
  obtain ⟨block, -, hrun, hcut, -⟩ := hstarts echoing
    (fun block => .write 1 block (.halt .returned)) ⟨rfl, rfl, fun _ => rfl⟩ hargs true
    { source := "-- -e" } hsource
  exact ⟨hargs, hsource, ⟨block, hrun, hcut⟩, hzero, (hrefused _ hzero).2.2.1 (some echoing)⟩

end Arguments

end Playpen
