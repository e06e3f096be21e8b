import Playpen.FileTree
import Playpen.Proofs.Lines

/-!
# Where paths lead

A change somewhere in a tree is seen below that place (`find?_modifyAt`) and nowhere
beside it (`find?_modifyAt_beside`). The walk along a written path looks at nothing but
what is found at the places it comes by (`walk_eq_walkFrom`). So as long as directories
stay directories (`Survives`), as they do when files are exchanged, a path that leads to
one leads to the same place (`IsAt.survives`), and so does a longer path with a name more
(`IsAt.locate`).
-/

namespace Playpen

namespace Path

/-- The name of something in a directory, and of nothing else. -/
structure IsPlain (name : String) : Prop where
  ne_empty : name ≠ ""
  ne_dot : name ≠ "."
  ne_dots : name ≠ ".."
  slash_not_mem : '/' ∉ name.toList

instance (name : String) : Decidable (IsPlain name) :=
  decidable_of_iff (name ≠ "" ∧ name ≠ "." ∧ name ≠ ".." ∧ '/' ∉ name.toList)
    ⟨fun h => ⟨h.1, h.2.1, h.2.2.1, h.2.2.2⟩,
      fun h => ⟨h.ne_empty, h.ne_dot, h.ne_dots, h.slash_not_mem⟩⟩

/-- The system may be asked for such a path. -/
structure IsWritten (text : String) : Prop where
  zero_not_mem : '\x00' ∉ text.toList
  size_le : text.utf8ByteSize ≤ longest

variable {base name : String}

/-- A path that another may follow: it ends with a slash, unless there is nothing of
    it. -/
def leading (base : String) : String :=
  if base = "" ∨ base.toList.getLast? = some '/' then base else base ++ "/"

theorem joinText_eq (h : IsPlain name) : joinText base name = leading base ++ name := by
  have hhead : name.toList.head? ≠ some '/' := fun hhead =>
    h.slash_not_mem (List.mem_of_mem_head? hhead)
  rw [joinText, if_neg hhead, leading]
  split
  · rfl
  · rfl

theorem leading_cases (base : String) :
    base = "" ∧ leading base = "" ∨
      ∃ above, (leading base).toList = above ++ ['/'] ∧
        (base.toList = above ∨ base.toList = above ++ ['/']) := by
  rw [leading]
  split
  · rename_i hbase
    rcases hbase with rfl | hlast
    · exact .inl ⟨rfl, rfl⟩
    · obtain ⟨above, habove⟩ := List.getLast?_eq_some_iff.1 hlast
      exact .inr ⟨above, habove, .inr habove⟩
  · exact .inr ⟨base.toList, String.toList_append, .inl rfl⟩

theorem zero_not_mem_leading (h : '\x00' ∉ base.toList) : '\x00' ∉ (leading base).toList := by
  rcases leading_cases base with ⟨-, hlead⟩ | ⟨above, hlead, hbase | hbase⟩
  · rw [hlead]
    exact List.not_mem_nil
  · rw [hlead, ← hbase, List.mem_append, List.mem_singleton, not_or]
    exact ⟨h, by decide⟩
  · rwa [hlead, ← hbase]

/-- A plain name behind a path is one name more. -/
theorem ofText_joinText (h : IsPlain name) :
    ofText (joinText base name) = ofText base ++ [name] := by
  have hne : name.toList.isEmpty = false := by
    rw [List.isEmpty_eq_false_iff]
    exact fun hnil => h.ne_empty (String.toList_injective hnil)
  have hname : ((Text.split '/' name.toList).filter fun piece => !piece.isEmpty).map String.ofList =
      [name] := by
    rw [Text.split_eq_singleton h.slash_not_mem, List.filter_cons, hne]
    exact congrArg (fun n => [n]) String.ofList_toList
  rw [joinText_eq h, ofText, ofText, String.toList_append]
  rcases leading_cases base with ⟨rfl, hlead⟩ | ⟨above, hlead, hbase⟩
  · rw [hlead]
    exact hname
  · rw [hlead, List.append_assoc, List.singleton_append, Text.split_append_sep, List.filter_append,
      List.map_append, hname]
    -- A slash at the end makes one more piece, which is empty.
    rcases hbase with hbase | hbase
    · rw [hbase]
    · rw [hbase, Text.split_append_sep, List.filter_append, List.map_append]
      exact congrArg (· ++ [name]) (List.append_nil _).symm

/-- There are no names between slashes. -/
theorem ofText_slashes (n : Nat) : ofText (String.ofList (List.replicate n '/')) = [] := by
  have hsplit : Text.split '/' (List.replicate n '/') = List.replicate (n + 1) [] := by
    induction n with
    | zero => rfl
    | succ n ih => rw [List.replicate_succ, Text.split, if_pos rfl, ih, ← List.replicate_succ]
  have hnone : ((List.replicate (n + 1) ([] : List Char)).filter fun name => !name.isEmpty) = [] :=
    List.filter_eq_nil_iff.2 fun name hname => by
      rw [List.eq_of_mem_replicate hname]
      decide
  rw [ofText, String.toList_ofList, hsplit, hnone, List.map_nil]

theorem toList_joinText_slashes (h : IsPlain name) (n : Nat) :
    (joinText (String.ofList (List.replicate n '/')) name).toList =
      List.replicate n '/' ++ name.toList := by
  have hlead : leading (String.ofList (List.replicate n '/')) =
      String.ofList (List.replicate n '/') := by
    rw [leading, if_pos]
    cases n with
    | zero => exact .inl rfl
    | succ n =>
      refine .inr ?_
      rw [String.toList_ofList, List.replicate_succ', List.getLast?_concat]
  rw [joinText_eq h, hlead, String.toList_append, String.toList_ofList]

end Path

namespace FileTree

variable {t t' sub : FileTree} {f : FileTree → FileTree} {name : String} {p q : Path}

/-! ## Changes -/

theorem find?_append (t : FileTree) (p q : Path) :
    t.find? (p ++ q) = (t.find? p).bind fun below => below.find? q := by
  induction p generalizing t with
  | nil => rfl
  | cons name p ih =>
    rw [List.cons_append, find?, find?]
    cases t.child? name with
    | none => rfl
    | some below => exact ih below

theorem find?_concat (t : FileTree) (p : Path) (name : String) :
    t.find? (p ++ [name]) = (t.find? p).bind fun below => below.child? name := by
  rw [find?_append]
  congr 1
  funext below
  exact Option.bind_fun_some (below.child? name)

/-- Changes what is at a place, if there is anything. -/
def modifyAt (f : FileTree → FileTree) (t : FileTree) : Path → FileTree
  | [] => f t
  | name :: names =>
    match t.child? name with
    | none => t
    | some below => t.setChild name (some (below.modifyAt f names))

/-- Something is put at a place by a change of the directory above. -/
theorem replace_concat (new? : Option FileTree) (t : FileTree) (p : Path) (name : String) :
    t.replace new? (p ++ [name]) = t.modifyAt (·.setChild name new?) p := by
  induction p generalizing t with
  | nil => rfl
  | cons first p ih =>
    have hne : p ++ [name] ≠ [] := List.append_ne_nil_of_right_ne_nil p (List.cons_ne_nil name [])
    rw [List.cons_append, replace, modifyAt]
    · cases t.child? first with
      | none => rfl
      | some below => exact congrArg (fun new => t.setChild first (some new)) (ih below)
    · exact hne

/-- What has children is a directory. -/
theorem eq_directory_of_child? (h : t.child? name = some sub) :
    ∃ entries, t = .directory entries := by
  cases t with
  | file bytes => exact nomatch h
  | directory entries => exact ⟨entries, rfl⟩

/-- A change is seen below the place where it is made. -/
theorem find?_modifyAt (h : t.find? p = some sub) (q : Path) :
    (t.modifyAt f p).find? (p ++ q) = (f sub).find? q := by
  induction p generalizing t with
  | nil =>
    obtain rfl := Option.some.inj h
    rfl
  | cons name p ih =>
    obtain ⟨below, hbelow, hsub⟩ := Option.bind_eq_some_iff.1 h
    obtain ⟨entries, rfl⟩ := eq_directory_of_child? hbelow
    rw [modifyAt, hbelow, List.cons_append, find?, child?_setChild_self, Option.bind_some]
    exact ih hsub

/-- A change is not seen beside the place where it is made. -/
theorem find?_modifyAt_beside {name' : String} (h : name' ≠ name) (t : FileTree)
    (p above q : Path) :
    (t.modifyAt f (above ++ name :: p)).find? (above ++ name' :: q) =
      t.find? (above ++ name' :: q) := by
  induction above generalizing t with
  | nil =>
    rw [List.nil_append, modifyAt]
    cases t.child? name with
    | none => rfl
    | some below =>
      rw [List.nil_append, find?, find?, child?_setChild_of_ne h]
  | cons first above ih =>
    rw [List.cons_append, modifyAt]
    cases hbelow : t.child? first with
    | none => rfl
    | some below =>
      obtain ⟨entries, rfl⟩ := eq_directory_of_child? hbelow
      rw [List.cons_append, find?, child?_setChild_self, find?, hbelow]
      exact ih below

/-- The other names in a directory keep their meaning. -/
theorem find?_replace_of_ne {name' : String} (h : name' ≠ name) (new? : Option FileTree)
    (t : FileTree) (p : Path) :
    (t.replace new? (p ++ [name])).find? (p ++ [name']) = t.find? (p ++ [name']) := by
  rw [replace_concat]
  induction p generalizing t with
  | nil =>
    rw [List.nil_append, find?, find?]
    exact congrArg (Option.bind · _) (child?_setChild_of_ne h t new?)
  | cons first p ih =>
    rw [modifyAt]
    cases hbelow : t.child? first with
    | none => rfl
    | some below =>
      obtain ⟨entries, rfl⟩ := eq_directory_of_child? hbelow
      rw [List.cons_append, find?, child?_setChild_self, find?, hbelow]
      exact ih below

/-! ## Directories that stay -/

/-- What is a directory in one tree is one in the other. -/
def Survives (t t' : FileTree) : Prop :=
  ∀ p entries, t.find? p = some (.directory entries) →
    ∃ entries', t'.find? p = some (.directory entries')

theorem Survives.refl (t : FileTree) : Survives t t := fun _ entries h => ⟨entries, h⟩

theorem Survives.trans {t'' : FileTree} (h : Survives t t') (h' : Survives t' t'') :
    Survives t t'' := fun p entries hp => by
  obtain ⟨entries', hp'⟩ := h p entries hp
  exact h' p entries' hp'

/-- Directories stay if no directory is exchanged. -/
theorem survives_setChild {new? : Option FileTree}
    (h : ∀ entries, t.child? name ≠ some (.directory entries)) :
    Survives t (t.setChild name new?) := by
  intro p entries hp
  cases p with
  | nil =>
    obtain rfl := Option.some.inj hp
    exact ⟨_, rfl⟩
  | cons first rest =>
    rw [find?] at hp ⊢
    by_cases hfirst : first = name
    · obtain ⟨below, hbelow, hentries⟩ := Option.bind_eq_some_iff.1 hp
      -- It was no directory, so nothing is below it.
      cases below with
      | directory inner => exact absurd (hfirst ▸ hbelow) (h inner)
      | file bytes =>
        cases rest with
        | nil => cases hentries
        | cons second rest => cases hentries
    · exact ⟨entries, by rw [child?_setChild_of_ne hfirst, hp]⟩

theorem survives_modifyAt (h : ∀ sub, t.find? p = some sub → Survives sub (f sub)) :
    Survives t (t.modifyAt f p) := by
  induction p generalizing t with
  | nil => exact h t rfl
  | cons name p ih =>
    rw [modifyAt]
    cases hbelow : t.child? name with
    | none => exact .refl t
    | some below =>
      have hbelow' : Survives below (below.modifyAt f p) := ih fun sub hsub => h sub (by
        rw [find?, hbelow]
        exact hsub)
      obtain ⟨inner, rfl⟩ := eq_directory_of_child? hbelow
      intro q entries hq
      cases q with
      | nil => exact ⟨_, rfl⟩
      | cons first rest =>
        rw [find?] at hq ⊢
        by_cases hfirst : first = name
        · subst hfirst
          rw [child?_setChild_self, Option.bind_some]
          rw [hbelow, Option.bind_some] at hq
          exact hbelow' rest entries hq
        · exact ⟨entries, by rw [child?_setChild_of_ne hfirst, hq]⟩

/-! ## Files that are exchanged -/

/-- Files right below a place were exchanged, and nothing else was. -/
inductive Exchanged (p : Path) (t : FileTree) : FileTree → Prop
  | refl : Exchanged p t t
  | exchange {t' : FileTree} {name : String} (new? : Option FileTree) : Exchanged p t t' →
      (∀ inner, t'.find? (p ++ [name]) ≠ some (.directory inner)) →
      Exchanged p t (t'.replace new? (p ++ [name]))

namespace Exchanged

theorem trans {t'' : FileTree} (h : Exchanged p t t') (h' : Exchanged p t' t'') :
    Exchanged p t t'' := by
  induction h' with
  | refl => exact h
  | exchange new? _ hfile ih => exact .exchange new? ih hfile

theorem survives (h : Exchanged p t t') : Survives t t' := by
  induction h with
  | refl => exact .refl t
  | @exchange t' name new? _ hfile ih =>
    refine ih.trans ?_
    rw [replace_concat]
    refine survives_modifyAt fun sub hsub => survives_setChild fun inner hinner => ?_
    exact hfile inner (by rw [find?_concat, hsub]; exact hinner)

theorem find?_beside {name' : String} (h : Exchanged (p ++ [name']) t t') (hne : name ≠ name')
    (q : Path) : t'.find? (p ++ name :: q) = t.find? (p ++ name :: q) := by
  induction h with
  | refl => rfl
  | exchange new? _ _ ih => rw [replace_concat, find?_modifyAt_beside hne, ih]

end Exchanged

/-- What the directory holds in which something was put. -/
theorem find?_replace_above {entries : List (String × FileTree)}
    (h : t.find? p = some (.directory entries)) (new? : Option FileTree) (name : String) :
    (t.replace new? (p ++ [name])).find? p = some ((directory entries).setChild name new?) := by
  have hfind := find?_modifyAt (f := (·.setChild name new?)) h []
  rw [List.append_nil] at hfind
  rw [replace_concat, hfind]
  rfl

/-! ## The walk -/

/-- The walk along a path from the directory with the names `above`, the last one
    first. -/
def walkFrom (t : FileTree) (above : List String) : List String → Except FileFault Place
  | [] => .ok ⟨above.reverse, t.find? above.reverse⟩
  | name :: names =>
    if name = "." then walkFrom t above names
    else if name = ".." then walkFrom t (above.drop 1) names
    else if Path.longestName < name.utf8ByteSize then .error .nameTooLong
    else if names.isEmpty then .ok ⟨(name :: above).reverse, t.find? (name :: above).reverse⟩
    else match t.find? (name :: above).reverse with
      | none => .error .notFound
      | some (.file _) => .error .notDirectory
      | some (.directory _) => walkFrom t (name :: above) names

/-- The directories that were entered are what is found at their places. -/
theorem walk_eq_walkFrom (t : FileTree) {entered : List (String × FileTree)}
    (h : ∀ k, t.find? ((entered.drop k).map Prod.fst).reverse =
      some (((entered.drop k).head?.map Prod.snd).getD t)) (names : List String) :
    t.walk entered names = t.walkFrom (entered.map Prod.fst) names := by
  induction names generalizing entered with
  | nil => rw [walk, walkFrom, ← List.drop_zero (l := entered), h 0]
  | cons name names ih =>
    have hchild : t.find? (name :: entered.map Prod.fst).reverse =
        ((entered.head?.map Prod.snd).getD t).child? name := by
      rw [List.reverse_cons, find?_concat]
      exact (congrArg (Option.bind · _) (h 0)).trans (Option.bind_some _ _)
    rw [walk, walkFrom, hchild, ← List.map_drop]
    split
    · exact ih h
    split
    · -- Whatever was entered before the last is at its place, too.
      exact ih fun k => by rw [List.drop_drop]; exact h (1 + k)
    split
    · rfl
    dsimp only
    generalize ((entered.head?.map Prod.snd).getD t).child? name = found? at hchild ⊢
    split
    · rfl
    match found? with
    | none | some (.file bytes) => rfl
    | some (.directory entries) =>
      exact ih fun k => match k with
        | 0 => hchild
        | k + 1 => h k

/-- A walk along `names` leads from the directory with the names `above` to the one with
    the names `above'`. -/
inductive Walks (t : FileTree) : List String → List String → List String → Prop
  | nil (above : List String) : Walks t above [] above
  | here {name : String} {above names above' : List String} :
      name = "." → Walks t above names above' → Walks t above (name :: names) above'
  | back {name : String} {above names above' : List String} :
      name = ".." → Walks t (above.drop 1) names above' → Walks t above (name :: names) above'
  | enter {name : String} {above names above' : List String} {entries : List (String × FileTree)} :
      name ≠ "." → name ≠ ".." → name.utf8ByteSize ≤ Path.longestName →
      t.find? (name :: above).reverse = some (.directory entries) →
      Walks t (name :: above) names above' → Walks t above (name :: names) above'

variable {above above' names rest : List String}

theorem Walks.append (h : Walks t above names above') {above'' : List String}
    (hrest : Walks t above' rest above'') : Walks t above (names ++ rest) above'' := by
  induction h with
  | nil above => exact hrest
  | here hdot _ ih => exact (ih hrest).here hdot
  | back hdots _ ih => exact (ih hrest).back hdots
  | enter hdot hdots hlong hfind _ ih => exact .enter hdot hdots hlong hfind (ih hrest)

/-- There is one way along a path. -/
theorem Walks.of_append (h : Walks t above names above') {above'' : List String}
    (h' : Walks t above (names ++ rest) above'') : Walks t above' rest above'' := by
  induction h with
  | nil above => exact h'
  | here hdot _ ih =>
    -- The name decides which way the longer walk goes.
    cases h' with
    | here _ h' => exact ih h'
    | back hdots => exact absurd (hdot.symm.trans hdots) (by decide)
    | enter hname => exact absurd hdot hname
  | back hdots _ ih =>
    cases h' with
    | here hdot => exact absurd (hdot.symm.trans hdots) (by decide)
    | back _ h' => exact ih h'
    | enter _ hname => exact absurd hdots hname
  | enter hdot hdots _ _ _ ih =>
    cases h' with
    | here hname => exact absurd hname hdot
    | back hname => exact absurd hname hdots
    | enter _ _ _ _ h' => exact ih h'

/-- The way to a directory is there as long as directories are. -/
theorem Walks.survives (h : Walks t above names above') (hs : Survives t t') :
    Walks t' above names above' := by
  induction h with
  | nil above => exact .nil above
  | here hdot _ ih => exact ih.here hdot
  | back hdots _ ih => exact ih.back hdots
  | enter hdot hdots hlong hfind _ ih =>
    obtain ⟨entries', hfind'⟩ := hs _ _ hfind
    exact .enter hdot hdots hlong hfind' ih

/-- From a directory the walk goes on along the rest of the path. -/
theorem Walks.walkFrom_append (h : Walks t above names above') (hrest : rest ≠ []) :
    t.walkFrom above (names ++ rest) = t.walkFrom above' rest := by
  induction h with
  | nil above => rfl
  | here hdot _ ih => rw [List.cons_append, walkFrom, if_pos hdot, ih]
  | back hdots _ ih =>
    rw [List.cons_append, walkFrom, hdots, if_neg (by decide), if_pos rfl, ih]
  | @enter name above names above' entries hdot hdots hlong hfind _ ih =>
    have hmore : ¬(names ++ rest).isEmpty = true := by
      rw [List.isEmpty_iff]
      exact List.append_ne_nil_of_right_ne_nil names hrest
    rw [List.cons_append, walkFrom, if_neg hdot, if_neg hdots, if_neg (Nat.not_lt.2 hlong),
      if_neg hmore, hfind]
    exact ih

/-- A walk that does not fail leads to a directory before its last name. -/
theorem exists_walks {place : Place}
    (h : t.walkFrom above (names ++ [name]) = .ok place) :
    ∃ above', Walks t above names above' ∧ t.walkFrom above' [name] = .ok place := by
  induction names generalizing above with
  | nil => exact ⟨above, .nil above, h⟩
  | cons first names ih =>
    have hmore : ¬(names ++ [name]).isEmpty = true := by
      rw [List.isEmpty_iff]
      exact List.append_ne_nil_of_right_ne_nil names (List.cons_ne_nil name [])
    rw [List.cons_append, walkFrom, if_neg hmore] at h
    split at h
    · rename_i hdot
      obtain ⟨above', hw, hlast⟩ := ih h
      exact ⟨above', hw.here hdot, hlast⟩
    split at h
    · rename_i hdots
      obtain ⟨above', hw, hlast⟩ := ih h
      exact ⟨above', hw.back hdots, hlast⟩
    split at h
    · exact nomatch h
    split at h
    · exact nomatch h
    · exact nomatch h
    · rename_i hdot hdots hlong _ entries hfind
      obtain ⟨above', hw, hlast⟩ := ih h
      exact ⟨above', .enter hdot hdots (Nat.not_lt.1 hlong) hfind hw, hlast⟩

/-- The last name of a path is looked up, whether there is anything or not. -/
theorem walkFrom_singleton (h : Path.IsPlain name) (t : FileTree) (p : Path) :
    t.walkFrom p.reverse [name] =
      if Path.longestName < name.utf8ByteSize then .error .nameTooLong
      else .ok ⟨p ++ [name], t.find? (p ++ [name])⟩ := by
  rw [walkFrom, if_neg h.ne_dot, if_neg h.ne_dots, if_pos List.isEmpty_nil,
    List.reverse_cons, List.reverse_reverse]

/-! ## Paths that lead to directories -/

/-- A path leads to the directory at `p`. -/
def IsAt (t : FileTree) (text : String) (p : Path) : Prop :=
  Walks t [] (Path.ofText text) p.reverse

theorem locate_eq (t : FileTree) (text : String) :
    t.locate text =
      if text.toList.contains '\x00' then .error .invalidName
      else if Path.longest < text.utf8ByteSize then .error .nameTooLong
      else t.walkFrom [] (Path.ofText text) := by
  rw [locate, walk_eq_walkFrom t fun k => by rw [List.drop_nil]; rfl]
  rfl

/-- The system is not to be asked for a path that is too long. -/
theorem locate_of_long {text : String} (hzero : '\x00' ∉ text.toList)
    (hlong : Path.longest < text.utf8ByteSize) (t : FileTree) :
    t.locate text = .error .nameTooLong := by
  rw [locate_eq, if_neg fun h => hzero (List.contains_iff_mem.1 h), if_pos hlong]

namespace IsAt

variable {text file : String}

theorem survives (h : IsAt t text p) (hs : Survives t t') : IsAt t' text p := Walks.survives h hs

theorem join {entries : List (String × FileTree)} (h : IsAt t text p) (hname : Path.IsPlain name)
    (hshort : name.utf8ByteSize ≤ Path.longestName)
    (hfind : t.find? (p ++ [name]) = some (.directory entries)) :
    IsAt t (Path.joinText text name) (p ++ [name]) := by
  have hfind' : t.find? (name :: p.reverse).reverse = some (.directory entries) := by
    rw [List.reverse_cons, List.reverse_reverse, hfind]
  rw [IsAt, Path.ofText_joinText hname, List.reverse_append]
  exact Walks.append h (.enter hname.ne_dot hname.ne_dots hshort hfind' (.nil _))

theorem eq_of_join {p' : Path} (h : IsAt t text p) (hname : Path.IsPlain name)
    (h' : IsAt t (Path.joinText text name) p') : p' = p ++ [name] := by
  rw [IsAt, Path.ofText_joinText hname] at h'
  cases Walks.of_append h h' with
  | here hdot => exact absurd hdot hname.ne_dot
  | back hdots => exact absurd hdots hname.ne_dots
  | enter _ _ _ _ hlast =>
    generalize habove : p'.reverse = above at hlast
    cases hlast
    rw [← List.reverse_reverse p', habove, List.reverse_cons, List.reverse_reverse]

/-- If a path leads anywhere, what stands before its last name leads to a directory. -/
theorem of_locate {place : Place} (hname : Path.IsPlain name)
    (h : t.locate (Path.joinText text name) = .ok place) :
    ∃ p, IsAt t text p ∧ place = ⟨p ++ [name], t.find? (p ++ [name])⟩ ∧
      name.utf8ByteSize ≤ Path.longestName ∧ Path.IsWritten (Path.joinText text name) := by
  rw [locate_eq] at h
  split at h
  · exact nomatch h
  rename_i hzero
  split at h
  · exact nomatch h
  rename_i hlong
  rw [Path.ofText_joinText hname] at h
  obtain ⟨above, hw, hlast⟩ := exists_walks h
  rw [← List.reverse_reverse above, walkFrom_singleton hname] at hlast
  split at hlast
  · exact nomatch hlast
  rename_i hshort
  refine ⟨above.reverse, ?_, (Except.ok.inj hlast).symm, Nat.not_lt.1 hshort,
    fun hmem => hzero (List.contains_iff_mem.2 hmem), Nat.not_lt.1 hlong⟩
  rwa [IsAt, List.reverse_reverse]

/-- What is called by a name in a directory is at the place with a name more. -/
theorem locate (h : IsAt t text p) (hname : Path.IsPlain name)
    (hshort : name.utf8ByteSize ≤ Path.longestName)
    (hwritten : Path.IsWritten (Path.joinText text name)) :
    t.locate (Path.joinText text name) = .ok ⟨p ++ [name], t.find? (p ++ [name])⟩ := by
  have hzero : (Path.joinText text name).toList.contains '\x00' = false :=
    Bool.eq_false_iff.2 fun hmem => hwritten.zero_not_mem (List.contains_iff_mem.1 hmem)
  rw [locate_eq, hzero, if_neg Bool.false_ne_true, if_neg (Nat.not_lt.2 hwritten.size_le),
    Path.ofText_joinText hname, Walks.walkFrom_append h (List.cons_ne_nil name []),
    walkFrom_singleton hname, if_neg (Nat.not_lt.2 hshort)]

/-- Unless the system is not to be asked for such a path at all, a name in a directory
    is looked up there. -/
theorem locate_cases (h : IsAt t text p) (hname : Path.IsPlain name) :
    t.locate (Path.joinText text name) = .ok ⟨p ++ [name], t.find? (p ++ [name])⟩ ∨
      t.locate (Path.joinText text name) = .error .invalidName ∨
      t.locate (Path.joinText text name) = .error .nameTooLong := by
  rw [locate_eq]
  split
  · exact .inr (.inl rfl)
  split
  · exact .inr (.inr rfl)
  rw [Path.ofText_joinText hname, Walks.walkFrom_append h (List.cons_ne_nil name []),
    walkFrom_singleton hname]
  split
  · exact .inr (.inr rfl)
  · exact .inl rfl

/-- Where a path with two names more leads, if anywhere. -/
theorem eq_of_locate {place : Place} (h : IsAt t text p) (hname : Path.IsPlain name)
    (hfile : Path.IsPlain file)
    (hplace : t.locate (Path.joinText (Path.joinText text name) file) = .ok place) :
    place = ⟨p ++ [name] ++ [file], t.find? (p ++ [name] ++ [file])⟩ := by
  obtain ⟨p', hp', rfl, -⟩ := of_locate hfile hplace
  rw [eq_of_join h hname hp']

end IsAt

end FileTree

end Playpen
