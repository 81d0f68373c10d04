/-
# Names in a directory

Something has a name in a directory, be it a link that leads nowhere, or nothing has: `Disk.HasEntry`.
What a path leads to, unless a link at its end is followed, bears the last name of the path, so two
names of one directory never lead to one place (`Disk.getLast?_of_find_join`).
-/
import BotKeeper.Proofs.Disk.File

namespace BotKeeper

namespace Path

variable {name : String}

/-- A name that something in a directory can have. -/
def IsName (name : String) : Prop := name ≠ "" ∧ name ≠ "." ∧ name ≠ ".." ∧ '/' ∉ name.toList

instance : Decidable (IsName name) := inferInstanceAs (Decidable (_ ∧ _))

lemma cutAux_append_slash (cs rest part : List Char) :
    cutAux (cs ++ '/' :: rest) part = cutAux cs part ++ cutAux rest [] := by
  induction cs generalizing part with
  | nil => rfl
  | cons c cs ih =>
    by_cases hc : c = '/'
    · subst hc
      simp [cutAux, ih]
    · simp [cutAux, ih]

lemma cutAux_of_notMem {cs part : List Char} (h : '/' ∉ cs) :
    cutAux cs part = [String.ofList (part.reverse ++ cs)] := by
  induction cs generalizing part with
  | nil => simp [cutAux]
  | cons c cs ih =>
    rw [List.mem_cons, not_or] at h
    rw [cutAux, ih h.2]
    · simp
    · exact fun heq => h.1 heq.symm

/-- A name that is joined to a path stands behind its last slash. -/
lemma toList_join (hname : IsName name) (dir : String) :
    (join dir name).toList = name.toList ∨
      ∃ front, (join dir name).toList = front ++ '/' :: name.toList := by
  obtain ⟨-, -, -, hslash⟩ := hname
  have hrelative : ¬isAbsolute name = true := fun h =>
    hslash (List.mem_of_head? (by simpa [isAbsolute] using h))
  rw [join, if_neg hrelative]
  split
  · rename_i hdir
    rcases Bool.or_eq_true_iff.1 hdir with hempty | hend
    · rw [String.isEmpty_iff.1 hempty]
      simp
    · obtain ⟨front, hfront⟩ := List.getLast?_eq_some_iff.1 (by simpa [endsWithSlash] using hend)
      exact .inr ⟨front, by simp [hfront]⟩
  · exact .inr ⟨dir.toList, by simp⟩

end Path

namespace Disk

variable {d d' : Disk} {here place : Place} {path dir name : String}

/-! ## The end of a path -/

/-- The way to a name in a directory ends with the name. -/
lemma getLast?_steps_join (hname : Path.IsName name) (dir : String) :
    (steps (Path.join dir name)).getLast? = some name := by
  have hjoin := Path.toList_join hname dir
  obtain ⟨hempty, -, -, hslash⟩ := hname
  have hcut : Path.cutAux name.toList [] = [name] := by
    rw [Path.cutAux_of_notMem hslash]
    simp
  have hend : Path.endsWithSlash (Path.join dir name) = false := by
    have hlast : (Path.join dir name).toList.getLast? = name.toList.getLast? := by
      rcases hjoin with h | ⟨front, h⟩
      · rw [h]
      · cases hchars : name.toList with
        | nil => exact absurd (String.toList_eq_nil_iff.1 hchars) hempty
        | cons c cs => simp [h, hchars, List.getLast?_cons]
    rw [Path.endsWithSlash, hlast]
    exact beq_false_of_ne fun h => hslash (List.mem_of_getLast? h)
  rw [steps, hend, Path.cut]
  rcases hjoin with h | ⟨front, h⟩
  · simp [h, hcut, hempty]
  · simp [h, Path.cutAux_append_slash, hcut, hempty]

/-- A walk that does not follow a link at its end comes to a place with its last name. -/
lemma getLast?_of_walk {fuel links : Nat} {names : List String} {found : Found}
    (h : d.walk false fuel links here names = .ok found) (hlast : names.getLast? = some name)
    (hdot : name ≠ ".") (hup : name ≠ "..") : found.place.getLast? = some name := by
  -- Unless a name is the last one, the names behind it end with the last name too.
  have hrest {first : String} {rest : List String} (hne : first ≠ name ∨ rest ≠ [])
      (h : (first :: rest).getLast? = some name) : rest.getLast? = some name := by
    cases rest with
    | nil => exact absurd (by simpa using h) (hne.resolve_right (absurd rfl))
    | cons => simpa using h
  have hends {first : String} {rest : List String} (q : Place) (hempty : rest.isEmpty = true)
      (h : (first :: rest).getLast? = some name) : (q ++ [first]).getLast? = some name := by
    rw [List.isEmpty_iff.1 hempty] at h
    simpa using h
  fun_induction walk d false fuel links here names with
  | case2 => cases hlast
  | case3 _ _ _ first rest hfirst ih =>
    refine ih h (hrest (.inl ?_) hlast)
    rintro rfl
    exact hdot (beq_iff_eq.1 hfirst)
  | case4 _ _ _ first rest _ hfirst ih =>
    refine ih h (hrest (.inl ?_) hlast)
    rintro rfl
    exact hup (beq_iff_eq.1 hfirst)
  | case8 fuel _ _ first rest _ _ _ there hnode ih =>
    cases rest with
    | cons next rest => exact ih h (hrest (.inr (List.cons_ne_nil _ _)) hlast)
    | nil =>
      cases fuel with
      | zero => cases h
      | succ fuel =>
        cases h
        exact hends _ rfl hlast
  | case12 _ _ _ rest _ _ _ there target _ hmore _ _ _ ih =>
    have hne : rest ≠ [] := by
      rintro rfl
      exact hmore rfl
    refine ih h ?_
    rw [List.getLast?_append, hrest (.inr hne) hlast]
    rfl
  | case6 _ _ _ _ _ _ _ _ there _ hempty =>
    cases h
    exact hends _ hempty hlast
  | case9 _ _ _ _ _ _ _ _ there _ _ hempty =>
    cases h
    exact hends _ (by simpa using hempty) hlast
  | case13 _ _ _ _ _ _ _ _ there _ _ _ _ hempty =>
    cases h
    exact hends _ hempty hlast
  | _ => cases h

lemma getLast?_of_find_join {found : Found} (hname : Path.IsName name)
    (h : d.find here (Path.join dir name) false = .ok found) : found.place.getLast? = some name := by
  have hlast := getLast?_steps_join hname dir
  rw [find] at h
  split at h
  · cases h
  split at h
  · cases h
  exact getLast?_of_walk h hlast hname.2.1 hname.2.2.1

/-! ## Entries -/

/-- Something stands at the end of a path, be it a link that leads nowhere. -/
def HasEntry (d : Disk) (here : Place) (path : String) : Prop :=
  ∃ place node, d.find here path false = .ok ⟨place, some node⟩

/-- No path leads astray because something is there already. -/
lemma find_ne_alreadyExists {follow : Bool} : d.find here path follow ≠ .error .alreadyExists := by
  have hwalk {fuel links : Nat} {q : Place} {names : List String} :
      d.walk follow fuel links q names ≠ .error .alreadyExists := by
    fun_induction walk d follow fuel links q names <;> first | assumption | simp
  rw [find]
  split
  · simp
  split
  · simp
  exact hwalk

lemma readText_congr {p q : String} (h : d.find here p = d'.find here q) :
    d.readText here p = d'.readText here q := by
  rw [readText, readText, read, read, findNode, findNode, h]

/-- Creating a file fails because something is there if and only if the path has an entry. -/
lemma createNew_eq_alreadyExists_iff :
    d.createNew here path = .error .alreadyExists ↔ d.HasEntry here path := by
  constructor
  · intro h
    match hfind : d.find here path false with
    | .error e =>
      rw [createNew, hfind] at h
      obtain rfl : e = .alreadyExists := Except.error.inj h
      exact absurd hfind find_ne_alreadyExists
    | .ok ⟨place, none⟩ =>
      rw [createNew, hfind] at h
      cases h
    | .ok ⟨place, some node⟩ => exact ⟨place, node, hfind⟩
  · rintro ⟨place, node, hfind⟩
    rw [createNew, hfind]
    rfl

/-! ## A file under a name -/

/-- A plain file with certain contents stands at the end of a path. -/
def Holds (d : Disk) (here : Place) (path : String) (content : SystemText) : Prop :=
  ∃ place, d.find here path false = .ok ⟨place, some (.file content false)⟩

lemma Holds.hasEntry {content : SystemText} (h : d.Holds here path content) : d.HasEntry here path := by
  obtain ⟨place, hfind⟩ := h
  exact ⟨place, _, hfind⟩

lemma Holds.find {content : SystemText} (h : d.Holds here path content) :
    ∃ place, d.find here path = .ok ⟨place, some (.file content false)⟩ := by
  obtain ⟨place, hfind⟩ := h
  refine ⟨place, ?_⟩
  rw [find_follow (by simp [hfind]), hfind]

lemma Holds.readText {s : String} (h : d.Holds here path (.text s)) : d.readText here path = .ok s := by
  obtain ⟨place, hfind⟩ := h.find
  exact readText_of_find hfind

/-- A file was put where a path led to nothing, and all else is as it was. -/
def Adds (here : Place) (path : String) (content : SystemText) (d d' : Disk) : Prop :=
  ∃ place, d.find here path false = .ok ⟨place, none⟩ ∧
    d'.node? place = some (.file content false) ∧ ∀ q, q ≠ place → d'.node? q = d.node? q

namespace Adds

variable {content : SystemText} {p : String} {follow : Bool} {found : Found}

lemma find (h : Adds here path content d d') (hfind : d.find here p follow = .ok found) :
    d'.find here p follow = .ok ⟨found.place, d'.node? found.place⟩ := by
  obtain ⟨place, hfree, hplace, hother⟩ := h
  have hnone : d.node? place = none := (node?_of_find hfree).symm
  exact find_of_agree hother (by rw [hnone]; trivial) (by rw [hplace]; trivial) hfind

lemma find_back (h : Adds here path content d d') (hfind : d'.find here p follow = .ok found) :
    d.find here p follow = .ok ⟨found.place, d.node? found.place⟩ := by
  obtain ⟨place, hfree, hplace, hother⟩ := h
  have hnone : d.node? place = none := (node?_of_find hfree).symm
  exact find_of_agree (fun q hq => (hother q hq).symm) (by rw [hplace]; trivial)
    (by rw [hnone]; trivial) hfind

lemma kept (h : Adds here path content d d') {q : Place} {node : Node} (hnode : d.node? q = some node) :
    d'.node? q = some node := by
  obtain ⟨place, hfree, -, hother⟩ := h
  rw [hother q, hnode]
  rintro rfl
  cases (node?_of_find hfree).trans hnode

lemma holds (h : Adds here path content d d') : d'.Holds here path content := by
  have ⟨place, hfree, hplace, _⟩ := h
  have hfind := h.find hfree
  rw [hplace] at hfind
  exact ⟨place, hfind⟩

lemma holds_of_holds {content' : SystemText} (h : Adds here path content d d')
    (hholds : d.Holds here p content') : d'.Holds here p content' := by
  obtain ⟨place, hfind⟩ := hholds
  refine ⟨place, ?_⟩
  rw [h.find hfind, h.kept (node?_of_find hfind).symm]

/-- A file that is put under one name gives no entry to another name. -/
lemma hasEntry_back {name' : String} (h : Adds here (Path.join dir name) content d d')
    (hname : Path.IsName name) (hname' : Path.IsName name') (hne : name ≠ name')
    (hentry : d'.HasEntry here (Path.join dir name')) : d.HasEntry here (Path.join dir name') := by
  obtain ⟨q, node, hfind⟩ := hentry
  have hback := h.find_back hfind
  obtain ⟨place, hfree, -, hother⟩ := h
  have hq : q ≠ place := by
    rintro rfl
    have hlast := getLast?_of_find_join hname hfree
    have hlast' := getLast?_of_find_join hname' hfind
    exact hne (Option.some.inj (hlast.symm.trans hlast'))
  have hnode : some node = d'.node? q := node?_of_find hfind
  rw [← hother q hq, ← hnode] at hback
  exact ⟨q, node, hback⟩

/-- What was put there can be written over. -/
lemma write (h : Adds here path content d d') (content' : SystemText) :
    ∃ d'', d'.write here path content' = .ok d'' ∧ Adds here path content' d d'' := by
  have ⟨place, hfree, hplace, hother⟩ := h
  have hne : place ≠ [] := by
    rintro rfl
    cases node?_of_find hfree
  have hfind := h.find hfree
  rw [hplace] at hfind
  have hfollow : d'.find here path = .ok ⟨place, some (.file content false)⟩ := by
    rw [find_follow (by simp [hfind]), hfind]
  refine ⟨d'.put place (.file content' false), ?_, place, hfree, node?_put_self hne, fun q hq => ?_⟩
  · rw [Disk.write, hfollow]
    rfl
  · rw [node?_put_of_ne hq, hother q hq]

end Adds

lemma createNew_adds (h : d.createNew here path = .ok d') : Adds here path (.text "") d d' := by
  match hfind : d.find here path false with
  | .error e =>
    rw [createNew, hfind] at h
    cases h
  | .ok ⟨place, some node⟩ =>
    rw [createNew, hfind] at h
    cases h
  | .ok ⟨place, none⟩ =>
    rw [createNew, hfind] at h
    obtain rfl : d.put place (.file (.text "") false) = d' := Except.ok.inj h
    have hne : place ≠ [] := by
      rintro rfl
      cases node?_of_find hfind
    exact ⟨place, hfind, node?_put_self hne, fun q hq => node?_put_of_ne hq⟩

end Disk

end BotKeeper
