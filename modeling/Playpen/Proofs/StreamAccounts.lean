import Playpen.Bridge
import Playpen.Proofs.Runs
import Playpen.Proofs.Untruncated

/-!
# Shared streams keep their accounts

However many evaluations use the same streams, and however their moves come between one
another, every byte of the input is read once or still to be read, and each captured
stream holds the beginning of all that was written to it (`Bridge.balances`). The account
of what has gone over the streams is that of the programs themselves: each of them has
done what is put down under its number, in that order, and nothing else (`Phase.After`).
-/

namespace Playpen

namespace Transfer

/-- All that was handed out of the input. -/
def received (ts : List Transfer) : Bytes :=
  ts.flatMap fun
    | .read bs => bs
    | .write .. => []

/-- All that was written, and to which streams. -/
def writes (ts : List Transfer) : List (Nat × Bytes) :=
  ts.filterMap fun
    | .read _ => none
    | .write stream bs => some (stream, bs)

theorem received_append (ts later : List Transfer) :
    received (ts ++ later) = received ts ++ received later := List.flatMap_append

theorem writes_append (ts later : List Transfer) :
    writes (ts ++ later) = writes ts ++ writes later := List.filterMap_append

/-- What was written to a stream is never taken back. -/
theorem length_sentTo_mono {ts later : List Transfer} (h : ts <+: later) (stream : Nat) :
    (sentTo stream (writes ts)).length ≤ (sentTo stream (writes later)).length := by
  obtain ⟨rest, rfl⟩ := h
  rw [writes_append, sentTo_append, List.length_append]
  exact Nat.le_add_right ..

end Transfer

open Transfer

/-! ## What programs do -/

/-- A program that behaves so can have done that, and behaves as is said from there on. It
    is never handed more than it asks for. -/
inductive Guest.Behaviour.Does (b : Behaviour) : List Transfer → Behaviour → Prop
  | refl : Does b [] b
  | write {ts : List Transfer} {stream : Nat} {bs : Bytes} {next : Behaviour} :
      Does b ts (.write stream bs next) → Does b (ts ++ [.write stream bs]) next
  | read {ts : List Transfer} {limit? : Option Nat} {next : Bytes → Behaviour} {bs : Bytes} :
      Does b ts (.read limit? next) → (∀ limit, limit? = some limit → bs.length ≤ limit) →
      Does b (ts ++ [.read bs]) (next bs)
  | pause {ts : List Transfer} {d : Duration} {next : Behaviour} :
      Does b ts (.pause d next) → Does b ts next

/-- How far an evaluation can be that is created with `start` and whose program has done
    that. -/
def Phase.After (start : Except HostFault Guest.Behaviour) (ts : List Transfer) : Phase → Prop
  | .created start' => start' = start ∧ ts = []
  | .running rest | .polled rest _ => ∃ b, start = .ok b ∧ b.Does ts rest
  | .ended _ => ts = [] ∨ ∃ b rest, start = .ok b ∧ b.Does ts rest

/-- A program is handed no more than it asks for. -/
theorem Streams.length_read_le {s : Streams} {limit? : Option Nat} {limit : Nat}
    (h : limit? = some limit) : (s.read limit?).1.length ≤ limit := by
  subst h
  exact List.length_take_le limit s.unread

namespace Evaluation

variable {e : Evaluation} {start : Except HostFault Guest.Behaviour} {ts : List Transfer}

theorem after_enter (h : e.phase.After start ts) : e.enter.phase.After start ts := by
  obtain ⟨phase, streams, cancelled, deadline⟩ := e
  match phase, cancelled with
  | .created start', true => exact .inl h.2
  | .created (.error why), false => exact .inl h.2
  | .created (.ok b), false =>
    obtain ⟨rfl, rfl⟩ := h
    exact ⟨b, rfl, .refl⟩
  | .running rest, _ | .polled rest stop, _ | .ended ending, _ => exact h

/-- What a program does is put down as it happens. -/
theorem after_advance (h : e.phase.After start ts) :
    e.advance.phase.After start (ts ++ e.transfers .advance) := by
  obtain ⟨phase, streams, cancelled, deadline⟩ := e
  match phase with
  | .running (.write stream bs next) =>
    obtain ⟨b, hb, hdoes⟩ := h
    exact ⟨b, hb, hdoes.write⟩
  | .running (.read limit? next) =>
    obtain ⟨b, hb, hdoes⟩ := h
    exact ⟨b, hb, hdoes.read fun limit hlimit => Streams.length_read_le hlimit⟩
  | .running (.pause d next) =>
    obtain ⟨b, hb, hdoes⟩ := h
    rw [transfers, List.append_nil]
    exact ⟨b, hb, hdoes.pause⟩
  | .running (.halt halt) =>
    obtain ⟨b, hb, hdoes⟩ := h
    rw [transfers, List.append_nil]
    exact .inr ⟨b, _, hb, hdoes⟩
  | .running .spin | .created _ | .polled _ _ | .ended _ =>
    rw [transfers, List.append_nil]
    exact h

theorem after_poll (h : e.phase.After start ts) (epoch : Nat) :
    (e.poll epoch).phase.After start ts := by
  unfold poll
  split
  · rename_i b hphase
    split
    · rwa [hphase] at h
    · exact h
  · exact h

theorem after_resume (h : e.phase.After start ts) (epoch : Nat) :
    (e.resume epoch).phase.After start ts := by
  obtain ⟨phase, streams, cancelled, deadline⟩ := e
  match phase with
  | .polled rest true =>
    obtain ⟨b, hb, hdoes⟩ := h
    exact .inr ⟨b, rest, hb, hdoes⟩
  | .polled rest false | .created _ | .running _ | .ended _ => exact h

theorem after_make (h : e.phase.After start ts) (epoch : Nat) (m : Move) :
    (e.make epoch m).phase.After start (ts ++ e.transfers m) := by
  cases m with
  | enter => simpa [make, transfers] using after_enter h
  | advance => exact after_advance h
  | poll => simpa [make, transfers] using after_poll h epoch
  | resume => simpa [make, transfers] using after_resume h epoch

end Evaluation

/-! ## What the streams hold -/

/-- Streams that began with that input to be read, and over which this has gone: what was
    read and what is still to be read make up the input, and of what was written as much is
    held as `n` bytes of each stream allow. -/
structure Streams.Accounts (input : Bytes) (n : Nat) (ts : List Transfer) (s : Streams) :
    Prop where
  keeps : s.Keeps n
  read : received ts ++ s.unread = input
  holds : s.Holds n (writes ts)

namespace Streams.Accounts

variable {input : Bytes} {n : Nat} {ts : List Transfer} {e : Evaluation}

theorem ofInput (input : Input) (n : Nat) : Accounts input.bytes n [] (.ofInput input n) :=
  ⟨.ofInput input n, rfl, .ofInput input n⟩

theorem advance (h : e.streams.Accounts input n ts) :
    e.advance.streams.Accounts input n (ts ++ e.transfers .advance) := by
  obtain ⟨phase, streams, cancelled, deadline⟩ := e
  match phase with
  | .running (.write stream bs next) =>
    have hunread : (streams.write stream bs).unread = streams.unread := by rw [write_eq]
    refine ⟨h.keeps.write stream bs, ?_, ?_⟩
    · rw [received_append]
      change (received ts ++ []) ++ (streams.write stream bs).unread = input
      rw [List.append_nil, hunread]
      exact h.read
    · rw [writes_append]
      exact h.holds.write h.keeps stream bs
  | .running (.read limit? next) =>
    refine ⟨⟨h.keeps.output, h.keeps.diagnostics⟩, ?_, ?_⟩
    · -- What is handed to the program is taken from the front of what is still to be read.
      have htake : received [.read (streams.read limit?).1] ++ (streams.read limit?).2.unread =
          streams.unread := by
        change ((streams.read limit?).1 ++ []) ++ _ = _
        rw [List.append_nil]
        exact List.take_append_drop _ streams.unread
      rw [received_append, List.append_assoc]
      exact (congrArg (received ts ++ ·) htake).trans h.read
    · have hnone : writes [.read (streams.read limit?).1] = [] := rfl
      rw [writes_append, Evaluation.transfers, hnone, List.append_nil]
      exact ⟨h.holds.output, h.holds.diagnostics⟩
  | .running (.halt _) | .running .spin | .running (.pause _ _) | .created _ | .polled _ _
  | .ended _ =>
    rw [Evaluation.transfers, List.append_nil]
    exact h

theorem make (h : e.streams.Accounts input n ts) (epoch : Nat) (m : Evaluation.Move) :
    (e.make epoch m).streams.Accounts input n (ts ++ e.transfers m) := by
  have hquiet {s : Streams} (hs : s = e.streams) : s.Accounts input n (ts ++ []) := by
    rwa [List.append_nil, hs]
  cases m with
  | enter => exact hquiet (Evaluation.streams_enter e)
  | advance => exact h.advance
  | poll => exact hquiet (Evaluation.streams_poll epoch e)
  | resume => exact hquiet (Evaluation.streams_resume epoch e)

/-- A stream is full if as much was written to it as is kept. -/
theorem overflowed_iff {s : Streams} (h : s.Accounts input n ts) :
    s.overflowed ↔ n ≤ (sentTo 1 (writes ts)).length ∨ n ≤ (sentTo 2 (writes ts)).length := by
  rw [h.keeps.overflowed_iff, Streams.Full, h.holds.output, h.holds.diagnostics, List.length_take,
    List.length_take]
  omega

end Streams.Accounts

/-! ## In order of numbers -/

/-- In a list that is in order of the numbers, all with a number come after all with a
    smaller one. -/
theorem filter_lt_append_filter_eq {α : Type} {l : List (Nat × α)}
    (h : l.Pairwise fun t later => t.1 ≤ later.1) (k : Nat) :
    (l.filter fun t => t.1 < k) ++ (l.filter fun t => t.1 = k) = l.filter fun t => t.1 < k + 1 := by
  induction l with
  | nil => rfl
  | cons t l ih =>
    obtain ⟨hfirst, hrest⟩ := List.pairwise_cons.1 h
    specialize ih hrest
    by_cases hlt : t.1 < k
    · rw [List.filter_cons_of_pos (by simpa using hlt),
        List.filter_cons_of_neg (by simpa using Nat.ne_of_lt hlt),
        List.filter_cons_of_pos (by simpa using Nat.lt_succ_of_lt hlt), List.cons_append, ih]
    · have hnone : (l.filter fun t => t.1 < k) = [] := by
        refine List.filter_eq_nil_iff.2 fun later hlater => ?_
        have := hfirst later hlater
        simpa using by omega
      rw [hnone, List.nil_append] at ih
      rw [List.filter_cons_of_neg (by simpa using hlt), hnone, List.nil_append,
        List.filter_cons, List.filter_cons, ih]
      congr 1
      simp
      omega

theorem flatMap_range_filter {α : Type} {l : List (Nat × α)}
    (h : l.Pairwise fun t later => t.1 ≤ later.1) (k : Nat) :
    (List.range k).flatMap (fun n => l.filter fun t => t.1 = n) = l.filter fun t => t.1 < k := by
  induction k with
  | zero => simp
  | succ k ih =>
    rw [List.range_succ, List.flatMap_append, ih, List.flatMap_singleton,
      filter_lt_append_filter_eq h]

namespace Bridge

variable {x y : Bridge} {u : Use} {n k : Nat} {input : Input} {capacity : Nat} {moves : List Move}

/-! ## The account -/

/-- All that has gone over the streams, whoever asked for it. -/
def carried (x : Bridge) : List Transfer := x.traffic.map Prod.snd

/-- All that has gone over the streams for evaluation `n`. -/
def carriedFor (x : Bridge) (n : Nat) : List Transfer :=
  (x.traffic.filter fun t => t.1 = n).map Prod.snd

/-- The programs used the streams one after another. -/
def InTurn (x : Bridge) : Prop := x.traffic.Pairwise fun t later => t.1 ≤ later.1

/-- What holds of streams over which all goes that their evaluations ask for. -/
structure Inv (input : Bytes) (capacity : Nat) (x : Bridge) : Prop where
  accounts : x.streams.Accounts input capacity x.carried
  after : ∀ {n : Nat} {u : Use}, x.uses[n]? = some u →
    u.evaluation.phase.After u.start (x.carriedFor n)
  numbered : ∀ t ∈ x.traffic, t.1 < x.uses.length

theorem carried_update (x : Bridge) (n : Nat) (u : Use) (e : Evaluation) (ts : List Transfer) :
    (x.update n u e ts).carried = x.carried ++ ts := by
  rw [carried, update, List.map_append, List.map_map, carried]
  exact congrArg (_ ++ ·) (List.map_id ts)

theorem carriedFor_update_self (x : Bridge) (n : Nat) (u : Use) (e : Evaluation)
    (ts : List Transfer) : (x.update n u e ts).carriedFor n = x.carriedFor n ++ ts := by
  have hall : (ts.map (n, ·)).filter (fun t => t.1 = n) = ts.map (n, ·) := by
    refine List.filter_eq_self.2 fun t ht => ?_
    obtain ⟨t, -, rfl⟩ := List.mem_map.1 ht
    exact decide_eq_true rfl
  rw [carriedFor, update, List.filter_append, hall, List.map_append, List.map_map, carriedFor]
  exact congrArg (_ ++ ·) (List.map_id ts)

theorem carriedFor_update_of_ne (hne : n ≠ k) (e : Evaluation) (ts : List Transfer) :
    (x.update n u e ts).carriedFor k = x.carriedFor k := by
  have hnone : (ts.map (n, ·)).filter (fun t => t.1 = k) = [] := by
    refine List.filter_eq_nil_iff.2 fun t ht => ?_
    obtain ⟨t, -, rfl⟩ := List.mem_map.1 ht
    simpa using hne
  rw [carriedFor, update, List.filter_append, hnone, List.append_nil, carriedFor]

namespace Inv

theorem ofInput (input : Input) (capacity : Nat) :
    Inv input.bytes capacity (.ofInput input capacity) where
  accounts := .ofInput input capacity
  after h := nomatch h
  numbered _ ht := nomatch ht

variable {input : Bytes}

/-- Nothing has gone over the streams for an evaluation that is to be created. -/
theorem carriedFor_length (hi : Inv input capacity x) : x.carriedFor x.uses.length = [] := by
  rw [carriedFor, List.map_eq_nil_iff, List.filter_eq_nil_iff]
  intro t ht
  simpa using Nat.ne_of_lt (hi.numbered t ht)

theorem create (hi : Inv input capacity x) (epoch : Nat)
    (start : Except HostFault Guest.Behaviour) (cancelled : Bool) :
    Inv input capacity (x.create epoch start cancelled) where
  accounts := hi.accounts
  after {n u} hu := by
    rcases Runs.getElem?_concat_eq_some_iff.1 hu with hu | ⟨rfl, rfl⟩
    · exact hi.after hu
    · exact ⟨rfl, hi.carriedFor_length⟩
  numbered t ht := by
    rw [Bridge.create, List.length_append]
    exact Nat.lt_add_right _ (hi.numbered t ht)

/-- One evaluation goes on; the others are where they were. -/
theorem update (hi : Inv input capacity x) (hu : x.uses[n]? = some u) {e : Evaluation}
    {ts : List Transfer} (haccounts : e.streams.Accounts input capacity (x.carried ++ ts))
    (hafter : e.phase.After u.start (x.carriedFor n ++ ts)) :
    Inv input capacity (x.update n u e ts) where
  accounts := by
    rw [carried_update]
    exact haccounts
  after {k v} hv := by
    rcases Runs.of_getElem?_set_eq_some hv with ⟨rfl, rfl⟩ | ⟨hne, hv⟩
    · rw [carriedFor_update_self]
      exact hafter
    · rw [carriedFor_update_of_ne hne]
      exact hi.after hv
  numbered t ht := by
    rw [Bridge.update, List.length_set]
    rcases List.mem_append.1 ht with ht | ht
    · exact hi.numbered t ht
    · obtain ⟨t, -, rfl⟩ := List.mem_map.1 ht
      exact (List.getElem?_eq_some_iff.1 hu).1

theorem step {m : Move} (hi : Inv input capacity x) (h : x.step m = some y) :
    Inv input capacity y := by
  cases m with
  | create epoch start cancelled =>
    obtain rfl := Option.some.inj h
    exact hi.create epoch start cancelled
  | evaluate n epoch m =>
    obtain ⟨u, hu, rfl⟩ := Option.map_eq_some_iff.1 h
    exact hi.update hu (hi.accounts.make (e := x.observe u) epoch m)
      (Evaluation.after_make (e := x.observe u) (hi.after hu) epoch m)
  | cancel n =>
    obtain ⟨u, hu, rfl⟩ := Option.map_eq_some_iff.1 h
    refine hi.update hu ?_ ?_
    · rw [List.append_nil]
      exact hi.accounts
    · rw [List.append_nil]
      exact hi.after hu

end Inv

theorem run_inv (h : (ofInput input capacity).run moves = some x) :
    Inv input.bytes capacity x :=
  Runs.run_induction (P := Inv input.bytes capacity) (fun _ => Inv.step) h
    (.ofInput input capacity)

/-! ## One after another -/

/-- If one after another used the streams, all that has gone over them is what the first
    asked for, then what the second did, and so on. -/
theorem InTurn.flatMap_carriedFor (h : x.InTurn) (hnumbered : ∀ t ∈ x.traffic, t.1 < k) :
    (List.range k).flatMap x.carriedFor = x.carried := by
  have hall : (x.traffic.filter fun t => t.1 < k) = x.traffic :=
    List.filter_eq_self.2 fun t ht => decide_eq_true (hnumbered t ht)
  have hparts : (List.range k).flatMap x.carriedFor =
      ((List.range k).flatMap fun n => x.traffic.filter fun t => t.1 = n).map Prod.snd :=
    List.map_flatMap.symm
  rw [hparts, flatMap_range_filter h, hall, carried]

/-- The streams when one more evaluation has become `e`, for which `ts` has gone over
    them. -/
def join (x : Bridge) (start : Except HostFault Guest.Behaviour) (e : Evaluation)
    (ts : List Transfer) : Bridge :=
  ⟨e.streams, x.uses ++ [⟨start, e⟩], x.traffic ++ ts.map (x.uses.length, ·)⟩

theorem join_update (x : Bridge) (start : Except HostFault Guest.Behaviour) (e e' : Evaluation)
    (ts later : List Transfer) :
    (x.join start e ts).update x.uses.length ⟨start, e⟩ e' later = x.join start e' (ts ++ later) := by
  simp [join, update]

theorem exists_step_join {start : Except HostFault Guest.Behaviour} {e e' : Evaluation}
    {ts : List Transfer} (h : e.Step e') :
    ∃ m later, (x.join start e ts).step m = some (x.join start e' (ts ++ later)) := by
  have huse : (x.join start e ts).uses[x.uses.length]? = some ⟨start, e⟩ :=
    List.getElem?_concat_length
  have hmake (epoch : Nat) (m : Evaluation.Move) :
      (x.join start e ts).step (.evaluate x.uses.length epoch m) =
        some (x.join start (e.make epoch m) (ts ++ e.transfers m)) := by
    rw [step, huse, ← join_update]
    rfl
  cases h with
  | enter => exact ⟨_, _, hmake 0 .enter⟩
  | advance => exact ⟨_, _, hmake 0 .advance⟩
  | poll epoch => exact ⟨_, _, hmake epoch .poll⟩
  | resume epoch => exact ⟨_, _, hmake epoch .resume⟩
  | cancel =>
    refine ⟨.cancel x.uses.length, [], ?_⟩
    rw [step, huse, ← join_update]
    rfl

theorem exists_run_join {epoch : Nat} {start : Except HostFault Guest.Behaviour}
    {cancelled : Bool} {e : Evaluation}
    (h : (Evaluation.create epoch start x.streams cancelled).Leads e) :
    ∃ moves ts, x.run moves = some (x.join start e ts) := by
  induction h with
  | refl =>
    refine ⟨[.create epoch start cancelled], [], ?_⟩
    change some (x.create epoch start cancelled) = _
    rw [create, join, List.map_nil, List.append_nil]
    rfl
  | tail _ hstep ih =>
    obtain ⟨moves, ts, hrun⟩ := ih
    obtain ⟨m, later, hm⟩ := exists_step_join hstep
    exact ⟨moves ++ [m], _, Runs.run_concat hrun hm⟩

/-- One more evaluation uses the streams after all others. -/
theorem Inv.inTurn_join {input : Bytes} (hi : Inv input capacity x) (h : x.InTurn)
    (start : Except HostFault Guest.Behaviour) (e : Evaluation) (ts : List Transfer) :
    (x.join start e ts).InTurn := by
  refine List.pairwise_append.2 ⟨h, ?_, fun t ht later hlater => ?_⟩
  · exact List.pairwise_map.2 (List.pairwise_of_forall fun _ _ => Nat.le_refl _)
  · obtain ⟨later, -, rfl⟩ := List.mem_map.1 hlater
    exact Nat.le_of_lt (hi.numbered t ht)

/-! ## The balance -/

theorem traffic_step {m : Move} (h : x.step m = some y) : x.traffic <+: y.traffic := by
  cases m with
  | create epoch start cancelled =>
    obtain rfl := Option.some.inj h
    exact List.prefix_rfl
  | evaluate n epoch m | cancel n =>
    obtain ⟨u, -, rfl⟩ := Option.map_eq_some_iff.1 h
    exact List.prefix_append ..

theorem traffic_run (h : x.run moves = some y) : x.traffic <+: y.traffic :=
  Runs.run_induction (P := fun y => x.traffic <+: y.traffic)
    (fun _ hx hm => hx.trans (traffic_step hm)) h List.prefix_rfl

/-- However evaluations use the same streams, and whatever their programs ask for in
    whatever pieces, what was handed to them in order, followed by what is still to be
    read, is the input; each captured stream holds the first `capacity` bytes of all that
    was written to it; and the streams have overflowed if and only if as much was written
    to one of them, so they never cease to have. What is put down for an evaluation is
    what its program has done. An evaluation can be made to go any of its ways after the
    others; and of those that come one after another, what the first was handed, then what
    the second was handed, and so on, is what was read of the input. -/
theorem balances (h : (ofInput input capacity).run moves = some x) :
    (∀ epoch start cancelled e, (Evaluation.create epoch start x.streams cancelled).Leads e →
      ∃ later ts, x.run later = some (x.join start e ts) ∧
        (x.InTurn → (x.join start e ts).InTurn)) ∧
    (∀ (n : Nat) (u : Use), x.uses[n]? = some u →
      u.evaluation.phase.After u.start (x.carriedFor n)) ∧
    received x.carried ++ x.streams.unread = input.bytes ∧
    (x.InTurn → (List.range x.uses.length).flatMap (fun n => received (x.carriedFor n)) ++
      x.streams.unread = input.bytes) ∧
    x.streams.output.bytes = (sentTo 1 (writes x.carried)).take capacity ∧
    x.streams.diagnostics.bytes = (sentTo 2 (writes x.carried)).take capacity ∧
    (x.streams.overflowed ↔ capacity ≤ (sentTo 1 (writes x.carried)).length ∨
      capacity ≤ (sentTo 2 (writes x.carried)).length) ∧
    ∀ later y, x.run later = some y → x.streams.overflowed → y.streams.overflowed := by
  have hi := run_inv h
  refine ⟨fun epoch start cancelled e he => ?_, fun n u => hi.after, hi.accounts.read,
    fun hturn => ?_, hi.accounts.holds.output, hi.accounts.holds.diagnostics,
    hi.accounts.overflowed_iff, fun later y hy hfull => ?_⟩
  · obtain ⟨later, ts, hrun⟩ := exists_run_join he
    exact ⟨later, ts, hrun, fun hturn => hi.inTurn_join hturn start e ts⟩
  · have hparts : (List.range x.uses.length).flatMap (fun n => received (x.carriedFor n)) =
        received ((List.range x.uses.length).flatMap x.carriedFor) := List.flatMap_assoc.symm
    rw [hparts, hturn.flatMap_carriedFor hi.numbered]
    exact hi.accounts.read
  · -- What was written to a stream is never taken back.
    have hj := run_inv ((Runs.run_append h later).trans hy)
    have hmore := (traffic_run hy).map Prod.snd
    exact hj.accounts.overflowed_iff.2 ((hi.accounts.overflowed_iff.1 hfull).imp
      (·.trans (length_sentTo_mono hmore 1)) (·.trans (length_sentTo_mono hmore 2)))

/-- A program that copies two bytes of the input to its output and says so. -/
def copying : Guest.Behaviour :=
  .read (some 2) fun bs => .write 1 bs <| .write 2 [33] <| .halt .returned

/-- Two evaluations of it read one after the other, but the second writes first. -/
def crossing : List Move :=
  [.create 0 (.ok copying) false, .evaluate 0 0 .enter, .evaluate 0 0 .advance,
    .create 0 (.ok copying) false, .evaluate 1 0 .enter, .evaluate 1 0 .advance,
    .evaluate 1 0 .advance, .evaluate 0 0 .advance, .evaluate 0 0 .advance]

theorem balances_of_crossing : ∃ x,
    (ofInput ⟨["abc"]⟩ 3).run crossing = some x ∧ x.streams.unread = [] ∧
      received x.carried = [97, 98, 99, 10] ∧ x.streams.output.bytes = [99, 10, 97] ∧
      x.streams.diagnostics.bytes = [33] ∧ x.streams.overflowed := by
  obtain ⟨-, -, hread, -, hout, herr, hfull, -⟩ :=
    @balances _ ⟨["abc"]⟩ 3 crossing rfl
  exact ⟨_, rfl, rfl, hread, hout, herr, hfull.2 (.inl (by decide))⟩

end Bridge

end Playpen
