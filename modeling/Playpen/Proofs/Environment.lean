import Mathlib.Data.List.Forall2
import Playpen.Proofs.Lines
import Playpen.Proofs.Numeral
import Playpen.Runner

/-!
# Settings from the environment

Each variable of the environment overrides one setting and no other, and only with a
value that makes sense (`Settings.ofEnvironment_eq`). So whatever the environment is,
the settings can be used: a run that sets no limit is not refused for want of one, and
there is somewhere to get the interpreter from (`Settings.ofEnvironment_overlays`).
-/

namespace Playpen

namespace Text

variable {cs : List Char}

/-- The text is not empty, and has no space at either end. -/
structure IsTrimmed (cs : List Char) : Prop where
  ne_nil : cs ≠ []
  head : ∀ c ∈ cs.head?, ¬isSpace c
  last : ∀ c ∈ cs.getLast?, ¬isSpace c

/-- What is left of a text that is not blank. -/
theorem isTrimmed_trim (h : ¬isBlank cs) : IsTrimmed (trim cs) where
  ne_nil := trim_eq_nil_iff.not.2 h
  head c hc := by
    obtain ⟨rest, hrest⟩ := List.head?_eq_some_iff.1 hc
    have hsplit := dropEndWhile_append_takeEndWhile isSpace (trimStart cs)
    rw [← trim, hrest] at hsplit
    have hnot := List.head?_dropWhile_not isSpace cs
    rw [← trimStart, ← hsplit] at hnot
    exact ne_true_of_eq_false hnot
  last := not_of_getLast?_dropEndWhile

end Text

namespace Settings

variable {env env' : String → Option String} {text : List Char} {n : Nat}

/-! ## Values that make sense -/

/-- A whole number of milliseconds from 1 to what 64 bits hold, in decimal. -/
def IsMillis (text : List Char) (n : Nat) : Prop :=
  Numeral.IsUnsigned (Text.trim text) n ∧ 0 < n ∧ n < UInt64.size

/-- The number one, or the word for yes with each letter in either case. -/
def IsYes (text : List Char) : Prop :=
  Text.trim text = ['1'] ∨
    List.Forall₂ (· ∈ ·) (Text.trim text) [['t', 'T'], ['r', 'R'], ['u', 'U'], ['e', 'E']]

theorem positiveMillis?_eq_some_iff {d : Duration} :
    positiveMillis? text = some d ↔ ∃ n, IsMillis text n ∧ d = .ofMillis n := by
  have hread {n : Nat} : Numeral.readNat 0xFFFFFFFFFFFFFFFF (Text.trim text) = .ok n ↔
      Numeral.IsUnsigned (Text.trim text) n ∧ n < UInt64.size := by
    rw [Numeral.readNat_eq_ok_iff, UInt64.size]
    exact and_congr_right fun _ => Nat.lt_succ_iff.symm
  rw [positiveMillis?]
  constructor
  · intro h
    split at h
    · rename_i n hn
      obtain ⟨hnumber, hlt⟩ := hread.1 hn
      split at h
      · exact nomatch h
      · rename_i hne
        exact ⟨n, ⟨hnumber, Nat.pos_of_ne_zero hne, hlt⟩, (Option.some.inj h).symm⟩
    · exact nomatch h
  · rintro ⟨n, ⟨hnumber, hpos, hlt⟩, rfl⟩
    rw [hread.2 ⟨hnumber, hlt⟩]
    exact if_neg (Nat.ne_of_gt hpos)

/-- A letter in lower case is got from that letter and its capital. -/
theorem lowerAscii_eq_iff {c l u : Char} (hu : 'A' ≤ u ∧ u ≤ 'Z') (hl : l.toNat = u.toNat + 32) :
    lowerAscii c = l ↔ c ∈ [l, u] := by
  -- All is said about the numbers of the characters, with those of the bounds in decimal.
  have hle (a b : Char) : a ≤ b ↔ a.toNat ≤ b.toNat := UInt32.le_iff_toNat_le
  have hA : 'A'.toNat = 65 := rfl
  have hZ : 'Z'.toNat = 90 := rfl
  simp only [lowerAscii, hle, List.mem_cons, List.not_mem_nil, or_false, ← Char.toNat_inj] at hu ⊢
  split
  · have hvalid : (c.toNat + 32).isValidChar := .inl (by omega)
    have hlower : (Char.ofNat (c.toNat + 32)).toNat = c.toNat + 32 := by
      rw [Char.ofNat, dif_pos hvalid]
      rfl
    omega
  · omega

theorem isAffirmative_iff : isAffirmative text ↔ IsYes text := by
  have ht (c : Char) := lowerAscii_eq_iff (c := c) (l := 't') (u := 'T') (by decide) rfl
  have hr (c : Char) := lowerAscii_eq_iff (c := c) (l := 'r') (u := 'R') (by decide) rfl
  have hu (c : Char) := lowerAscii_eq_iff (c := c) (l := 'u') (u := 'U') (by decide) rfl
  have he (c : Char) := lowerAscii_eq_iff (c := c) (l := 'e') (u := 'E') (by decide) rfl
  rw [isAffirmative, IsYes, Bool.or_eq_true, beq_iff_eq, beq_iff_eq,
    show "true".toList = ['t', 'r', 'u', 'e'] from rfl, ← List.forall₂_eq_eq_eq,
    List.forall₂_map_left_iff]
  refine or_congr_right ?_
  simp only [List.forall₂_cons_right_iff, List.forall₂_nil_right_iff, ht, hr, hu, he]

/-- What is chosen for keeping downloads. -/
def kept? (text : List Char) : Option Bool := if isAffirmative text then some false else none

theorem kept?_eq_some_iff {b : Bool} : kept? text = some b ↔ IsYes text ∧ b = false := by
  rw [kept?, Option.ite_none_right_eq_some, isAffirmative_iff, Option.some_inj]
  exact and_congr_right fun _ => eq_comm

theorem nonBlank?_of_isBlank (h : Text.isBlank text) : nonBlank? text = none := if_pos h

theorem nonBlank?_of_not_isBlank (h : ¬Text.isBlank text) :
    nonBlank? text = some (String.ofList (Text.trim text)) := if_neg h

/-! ## One variable for each setting -/

/-- What a variable says of the setting that it overrides, if it is set and says
    something that makes sense. -/
def said? {α : Type} (env : String → Option String) (v : Variable)
    (read? : List Char → Option α) : Option α :=
  (env v.name).bind fun value => read? value.toList

theorem said?_eq_some_iff {α : Type} {v : Variable} {read? : List Char → Option α} {a : α} :
    said? env v read? = some a ↔
      ∃ value, env v.name = some value ∧ read? value.toList = some a :=
  Option.bind_eq_some_iff

theorem said?_eq_none {α : Type} {v : Variable} {read? : List Char → Option α}
    (h : ∀ value, env v.name = some value → read? value.toList = none) :
    said? env v read? = none :=
  Option.bind_eq_none_iff.2 h

theorem said?_congr {α : Type} {v : Variable} (h : env v.name = env' v.name)
    (read? : List Char → Option α) : said? env v read? = said? env' v read? := by
  rw [said?, h, said?]

theorem consult_binaryUrl (c : Choices) : c.consult env .binaryUrl =
    { c with binaryUrl? := (said? env .binaryUrl nonBlank?).or c.binaryUrl? } := by
  rw [Choices.consult, said?]
  cases env Variable.binaryUrl.name <;> rfl

theorem consult_cacheDir (c : Choices) : c.consult env .cacheDir =
    { c with cacheDir? := (said? env .cacheDir nonBlank?).or c.cacheDir? } := by
  rw [Choices.consult, said?]
  cases env Variable.cacheDir.name <;> rfl

theorem consult_noCache (c : Choices) : c.consult env .noCache =
    { c with cacheEnabled? := (said? env .noCache kept?).or c.cacheEnabled? } := by
  rw [Choices.consult, said?]
  cases env Variable.noCache.name with
  | none => rfl
  | some value =>
    rw [Option.bind_some]
    dsimp only [Choices.override, kept?]
    split <;> rfl

theorem consult_timeoutMillis (c : Choices) : c.consult env .timeoutMillis =
    { c with
      defaultTimeout? := (said? env .timeoutMillis positiveMillis?).or c.defaultTimeout? } := by
  rw [Choices.consult, said?]
  cases env Variable.timeoutMillis.name <;> rfl

/-- Each variable overrides its setting, and the others are as by default. -/
theorem ofEnvironment_eq (env : String → Option String) : ofEnvironment env =
    { default with
      binaryUrl := (said? env .binaryUrl nonBlank?).getD default.binaryUrl
      cacheDir? := said? env .cacheDir nonBlank?
      cacheEnabled := (said? env .noCache kept?).getD true
      defaultTimeout := (said? env .timeoutMillis positiveMillis?).getD
        default.defaultTimeout } := by
  have hnone : default.cacheDir? = none := rfl
  simp only [ofEnvironment, List.foldl_cons, List.foldl_nil, consult_binaryUrl, consult_cacheDir,
    consult_noCache, consult_timeoutMillis, Choices.settings, Option.or_none, hnone]
  rfl

/-! ## The settings -/

/-- The settings are what this environment says under the names of the four variables, with
    sense made of each by itself, and are of use. -/
structure Overlays (env : String → Option String) (s : Settings) : Prop where
  not_isZero : s.defaultTimeout.isZero = false
  timeout_of_isMillis {value : String} {n : Nat} :
    env "RUBY_WASM_RUNNER_TIMEOUT_MS" = some value → IsMillis value.toList n →
    s.defaultTimeout = .ofMillis n
  timeout_of_not_isMillis : (∀ value n, env "RUBY_WASM_RUNNER_TIMEOUT_MS" = some value →
    ¬IsMillis value.toList n) → s.defaultTimeout = default.defaultTimeout
  isTrimmed_binaryUrl : Text.IsTrimmed s.binaryUrl.toList
  binaryUrl_of_not_isBlank {value : String} : env "RUBY_WASM_RUNNER_BINARY_URL" = some value →
    ¬Text.isBlank value.toList → s.binaryUrl = String.ofList (Text.trim value.toList)
  binaryUrl_of_isBlank : (∀ value, env "RUBY_WASM_RUNNER_BINARY_URL" = some value →
    Text.isBlank value.toList) → s.binaryUrl = default.binaryUrl
  isTrimmed_cacheDir {dir : String} : s.cacheDir? = some dir → Text.IsTrimmed dir.toList
  cacheDir_of_not_isBlank {value : String} : env "RUBY_WASM_RUNNER_CACHE_DIR" = some value →
    ¬Text.isBlank value.toList → s.cacheDir? = some (String.ofList (Text.trim value.toList))
  cacheDir_of_isBlank : (∀ value, env "RUBY_WASM_RUNNER_CACHE_DIR" = some value →
    Text.isBlank value.toList) → s.cacheDir? = none
  cacheEnabled_iff : s.cacheEnabled = false ↔
    ∃ value, env "RUBY_WASM_RUNNER_NO_CACHE" = some value ∧ IsYes value.toList
  cacheName : s.cacheName = default.cacheName
  maxOutputBytes : s.maxOutputBytes = default.maxOutputBytes
  interruptOnTimeout : s.interruptOnTimeout = default.interruptOnTimeout
  interpreterArguments : s.interpreterArguments = default.interpreterArguments

/-- What is said of an address or a directory has no space around it. -/
theorem isTrimmed_of_said? {v : Variable} {t : String} (h : said? env v nonBlank? = some t) :
    Text.IsTrimmed t.toList := by
  obtain ⟨value, -, h⟩ := said?_eq_some_iff.1 h
  rw [nonBlank?] at h
  split at h
  · exact nomatch h
  · rename_i hblank
    obtain rfl := Option.some.inj h
    rw [String.toList_ofList]
    exact Text.isTrimmed_trim hblank

theorem isTrimmed_default : Text.IsTrimmed default.binaryUrl.toList := by
  have hfirst : default.binaryUrl.toList.head? = some 'h' := by decide
  have hlast : default.binaryUrl.toList.getLast? = some 'm' := by decide
  refine ⟨List.ne_nil_of_mem (List.mem_of_mem_head? hfirst), fun c hc => ?_, fun c hc => ?_⟩
  · obtain rfl := Option.some.inj (hfirst.symm.trans hc)
    decide
  · obtain rfl := Option.some.inj (hlast.symm.trans hc)
    decide

theorem overlays_ofEnvironment (env : String → Option String) :
    Overlays env (ofEnvironment env) where
  not_isZero := by
    rw [ofEnvironment_eq]
    cases h : said? env .timeoutMillis positiveMillis? with
    | none => rfl
    | some d =>
      obtain ⟨value, -, h⟩ := said?_eq_some_iff.1 h
      obtain ⟨n, ⟨-, hpos, -⟩, rfl⟩ := positiveMillis?_eq_some_iff.1 h
      exact beq_false_of_ne (Nat.mul_ne_zero (Nat.ne_of_gt hpos) (by decide))
  timeout_of_isMillis {value n} hvalue hmillis := by
    have hread := positiveMillis?_eq_some_iff.2 ⟨n, hmillis, rfl⟩
    rw [ofEnvironment_eq, said?_eq_some_iff.2 ⟨value, hvalue, hread⟩]
    rfl
  timeout_of_not_isMillis hmillis := by
    have hread (value : String) (hvalue : env "RUBY_WASM_RUNNER_TIMEOUT_MS" = some value) :
        positiveMillis? value.toList = none := by
      refine Option.eq_none_iff_forall_ne_some.2 fun d hd => ?_
      obtain ⟨n, hn, -⟩ := positiveMillis?_eq_some_iff.1 hd
      exact hmillis value n hvalue hn
    rw [ofEnvironment_eq, said?_eq_none (v := .timeoutMillis) hread]
    rfl
  isTrimmed_binaryUrl := by
    rw [ofEnvironment_eq]
    cases h : said? env .binaryUrl nonBlank? with
    | none => exact isTrimmed_default
    | some url => exact isTrimmed_of_said? h
  binaryUrl_of_not_isBlank {value} hvalue hblank := by
    have hread := nonBlank?_of_not_isBlank hblank
    rw [ofEnvironment_eq, said?_eq_some_iff.2 ⟨value, hvalue, hread⟩]
    rfl
  binaryUrl_of_isBlank hblank := by
    have hread (value : String) (hvalue : env "RUBY_WASM_RUNNER_BINARY_URL" = some value) :=
      nonBlank?_of_isBlank (hblank value hvalue)
    rw [ofEnvironment_eq, said?_eq_none (v := .binaryUrl) hread]
    rfl
  isTrimmed_cacheDir {dir} hdir := by
    rw [ofEnvironment_eq] at hdir
    exact isTrimmed_of_said? hdir
  cacheDir_of_not_isBlank {value} hvalue hblank := by
    rw [ofEnvironment_eq]
    exact said?_eq_some_iff.2 ⟨value, hvalue, nonBlank?_of_not_isBlank hblank⟩
  cacheDir_of_isBlank hblank := by
    rw [ofEnvironment_eq]
    exact said?_eq_none fun value hvalue => nonBlank?_of_isBlank (hblank value hvalue)
  cacheEnabled_iff := by
    rw [ofEnvironment_eq]
    constructor
    · intro h
      cases hsaid : said? env .noCache kept? with
      | none =>
        rw [hsaid] at h
        exact nomatch h
      | some b =>
        obtain ⟨value, hvalue, hread⟩ := said?_eq_some_iff.1 hsaid
        exact ⟨value, hvalue, (kept?_eq_some_iff.1 hread).1⟩
    · rintro ⟨value, hvalue, hyes⟩
      rw [said?_eq_some_iff.2 ⟨value, hvalue, kept?_eq_some_iff.2 ⟨hyes, rfl⟩⟩]
      rfl
  cacheName := by rw [ofEnvironment_eq]
  maxOutputBytes := by rw [ofEnvironment_eq]
  interruptOnTimeout := by rw [ofEnvironment_eq]
  interpreterArguments := by rw [ofEnvironment_eq]

/-- A run without a limit of its own is not refused by a runner with such settings. -/
theorem executes {σ : Type} [Store σ] {r : Runner σ} (h : r.settings = ofEnvironment env)
    (source : String) (input? : Option String) : ∃ caller request,
      (r.call (.execute source input? none)).2 = .executing caller request ∧
        request.timeout = (ofEnvironment env).defaultTimeout := by
  have hzero : ¬(none.getD r.settings.defaultTimeout).isZero := by
    rw [h, Option.getD_none, (overlays_ofEnvironment env).not_isZero]
    exact Bool.false_ne_true
  rw [Runner.call_execute_of_not_zero none hzero, ← h]
  exact ⟨_, _, rfl, rfl⟩

/-- Whatever the environment says, what makes sense of it is overridden and nothing
    else. So the limit for runs that set none is not zero, and a runner starts them
    without a complaint; it is the one that the environment says, if that is a number
    of milliseconds from 1 to what 64 bits hold, and otherwise that by default. The
    address of the interpreter and the directory, if there is one, are not empty and
    have no space around them. Downloads are not kept exactly if the environment says
    so. And each of the four is the same in two environments that say the same of it,
    whatever else they say. -/
theorem ofEnvironment_overlays :
    (∀ env, Overlays env (ofEnvironment env)) ∧
    (∀ env env' : String → Option String,
      (env "RUBY_WASM_RUNNER_TIMEOUT_MS" = env' "RUBY_WASM_RUNNER_TIMEOUT_MS" →
        (ofEnvironment env).defaultTimeout = (ofEnvironment env').defaultTimeout) ∧
      (env "RUBY_WASM_RUNNER_BINARY_URL" = env' "RUBY_WASM_RUNNER_BINARY_URL" →
        (ofEnvironment env).binaryUrl = (ofEnvironment env').binaryUrl) ∧
      (env "RUBY_WASM_RUNNER_CACHE_DIR" = env' "RUBY_WASM_RUNNER_CACHE_DIR" →
        (ofEnvironment env).cacheDir? = (ofEnvironment env').cacheDir?) ∧
      (env "RUBY_WASM_RUNNER_NO_CACHE" = env' "RUBY_WASM_RUNNER_NO_CACHE" →
        (ofEnvironment env).cacheEnabled = (ofEnvironment env').cacheEnabled)) ∧
    ∀ env (σ : Type) [Store σ] (r : Runner σ), r.settings = ofEnvironment env →
      ∀ source input?, ∃ caller request,
        (r.call (.execute source input? none)).2 = .executing caller request ∧
        request.timeout = (ofEnvironment env).defaultTimeout := by
  refine ⟨overlays_ofEnvironment, fun env env' => ?_,
    fun env σ _ r h source input? => executes h source input?⟩
  rw [ofEnvironment_eq env, ofEnvironment_eq env']
  refine ⟨fun h => ?_, fun h => ?_, fun h => ?_, fun h => ?_⟩
  · exact congrArg (Option.getD · _) (said?_congr h positiveMillis?)
  · exact congrArg (Option.getD · _) (said?_congr h nonBlank?)
  · exact said?_congr h nonBlank?
  · exact congrArg (Option.getD · true) (said?_congr h kept?)

/-- An environment in which two of the variables are set, to odd values that make sense. -/
def oddly : String → Option String
  | "RUBY_WASM_RUNNER_TIMEOUT_MS" => some "\u00a0+0250\r\n"
  | "RUBY_WASM_RUNNER_NO_CACHE" => some " tRuE"
  | _ => none

theorem ofEnvironment_overlays_oddly :
    IsMillis "\u00a0+0250\r\n".toList 250 ∧ IsYes " tRuE".toList ∧
    (ofEnvironment oddly).defaultTimeout = .ofMillis 250 ∧
    (ofEnvironment oddly).cacheEnabled = false ∧
    (ofEnvironment oddly).binaryUrl = (ofEnvironment fun _ => none).binaryUrl := by
  have hmillis : IsMillis "\u00a0+0250\r\n".toList 250 :=
    ⟨.plus ⟨by decide, List.all_eq_true.1 rfl⟩, by decide, by decide⟩
  have hyes : IsYes " tRuE".toList := .inr (by decide)
  obtain ⟨hoverlays, hown, -⟩ := ofEnvironment_overlays
  exact ⟨hmillis, hyes, (hoverlays oddly).timeout_of_isMillis rfl hmillis,
    (hoverlays oddly).cacheEnabled_iff.2 ⟨_, rfl, hyes⟩, (hown oddly fun _ => none).2.1 rfl⟩

end Settings

end Playpen
