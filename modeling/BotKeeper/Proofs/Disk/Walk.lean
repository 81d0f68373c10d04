/-
# Walks over a tree of files

A walk goes by what stands at the places it passes.  It passes directories and links; at anything else,
and where nothing stands, it can end but not go on.  So a path leads to the same place on every disk on
which the same directories and links stand: `Disk.walk_of_passages`.
-/
import BotKeeper.Disk.Tree
import Mathlib.Tactic.Common

namespace BotKeeper.Disk

variable {d d' : Disk} {place q here : Place} {node : Node} {follow : Bool}

/-! ## What stands at a place -/

lemma node?_of_ne_nil (h : place ≠ []) : d.node? place = d.nodes.lookup place := by
  cases place with
  | nil => exact absurd rfl h
  | cons => rfl

lemma lookup_entry (p q : Place) (n : Node) (nodes : List (Place × Node)) :
    ((p, n) :: nodes).lookup q = if q = p then some n else nodes.lookup q := by
  rw [List.lookup_cons]
  by_cases h : q = p
  · subst h
    simp
  · have hne : (q == p) = false := beq_false_of_ne h
    rw [hne, if_neg h]

lemma lookup_replaced (nodes : List (Place × Node)) :
    (nodes.map fun entry => if entry.1 == place then (place, node) else entry).lookup q =
      if q = place then (nodes.lookup place).map fun _ => node else nodes.lookup q := by
  induction nodes with
  | nil => simp
  | cons entry nodes ih =>
    obtain ⟨p, n⟩ := entry
    by_cases hp : p = place
    · subst hp
      by_cases hq : q = p <;> simp_all [lookup_entry]
    · have hplace : place ≠ p := fun h => hp h.symm
      by_cases hq : q = place
      · subst hq
        simp_all [lookup_entry]
      · simp_all [lookup_entry]

lemma lookup_filter (p : Place → Bool) (nodes : List (Place × Node)) :
    (nodes.filter fun entry => p entry.1).lookup q = if p q then nodes.lookup q else none := by
  induction nodes with
  | nil => simp
  | cons entry nodes ih =>
    obtain ⟨r, n⟩ := entry
    rw [lookup_entry]
    by_cases hr : p r = true
    · rw [List.filter_cons_of_pos (by simpa using hr), lookup_entry, ih]
      by_cases hq : q = r
      · rw [if_pos hq, hq, if_pos hr, if_pos rfl]
      · rw [if_neg hq, if_neg hq]
    · rw [List.filter_cons_of_neg (by simpa using hr), ih]
      by_cases hq : q = r
      · rw [hq, if_neg hr, if_neg hr]
      · rw [if_neg hq]

lemma node?_put_self (h : place ≠ []) : (d.put place node).node? place = some node := by
  rw [node?_of_ne_nil h, put]
  cases hplace : d.nodes.lookup place with
  | some n =>
    change List.lookup place (d.nodes.map _) = _
    rw [lookup_replaced, if_pos rfl, hplace]
    rfl
  | none =>
    change List.lookup place (d.nodes ++ _) = _
    rw [List.lookup_append, hplace, lookup_entry, if_pos rfl]
    rfl

lemma node?_put_of_ne (h : q ≠ place) : (d.put place node).node? q = d.node? q := by
  by_cases hq : q = []
  · subst hq
    rfl
  · rw [node?_of_ne_nil hq, node?_of_ne_nil hq, put]
    split
    · rw [lookup_replaced, if_neg h]
    · rw [List.lookup_append, lookup_entry, if_neg h]
      exact Option.or_none

lemma node?_erase_self (h : place ≠ []) : (d.erase place).node? place = none := by
  rw [node?_of_ne_nil h, erase, lookup_filter (· != place), if_neg (by simp)]

lemma node?_erase_of_ne (h : q ≠ place) : (d.erase place).node? q = d.node? q := by
  by_cases hq : q = []
  · subst hq
    rfl
  · rw [node?_of_ne_nil hq, node?_of_ne_nil hq, erase, lookup_filter (· != place),
      if_pos (by simpa using h)]

lemma node?_eraseBelow (h : q ≠ []) :
    (d.eraseBelow place).node? q = if place.isPrefixOf q then none else d.node? q := by
  rw [node?_of_ne_nil h, node?_of_ne_nil h, eraseBelow, lookup_filter (!place.isPrefixOf ·)]
  cases place.isPrefixOf q <;> rfl

/-! ## Walks -/

/-- What a walk goes on from. -/
def IsPassage : Node → Prop
  | .directory | .link _ => True
  | _ => False

/-- Nothing, or a file. -/
def FileOrNone : Option Node → Prop
  | none => True
  | some (.file ..) => True
  | _ => False

lemma FileOrNone.ne_nil (h : FileOrNone (d.node? place)) : place ≠ [] := by
  rintro rfl
  exact h

lemma not_isPassage (h : FileOrNone (some node)) : ¬IsPassage node := by
  cases node <;> first | exact id | exact h.elim

/-- A walk says what stands where it ends. -/
lemma node?_of_walk {fuel links : Nat} {names : List String} {found : Found}
    (h : d.walk follow fuel links here names = .ok found) : found.node? = d.node? found.place := by
  fun_induction walk d follow fuel links here names with
  | case2 => cases h; rfl
  | case3 _ _ _ _ _ _ ih => exact ih h
  | case4 _ _ _ _ _ _ _ ih => exact ih h
  | case6 _ _ _ _ _ _ _ _ there hnode _ => cases h; exact hnode.symm
  | case8 _ _ _ _ _ _ _ _ there _ ih => exact ih h
  | case9 _ _ _ _ _ _ _ _ there _ hnode _ => cases h; exact hnode.symm
  | case12 _ _ _ _ _ _ _ there _ _ _ _ _ _ ih => exact ih h
  | case13 _ _ _ _ _ _ _ _ there _ _ _ hnode => cases h; exact hnode.symm
  | _ => cases h

section
variable {fuel links : Nat} {name : String} {rest names : List String} {found : Found}

lemma walk_nil : d.walk follow (fuel + 1) links here [] = .ok ⟨here, d.node? here⟩ := rfl

/-- A step to a name goes by what stands there. -/
lemma walk_name (hdot : ¬(name == ".") = true) (hup : ¬(name == "..") = true)
    (hlong : ¬255 < name.utf8ByteSize) :
    d.walk follow (fuel + 1) links here (name :: rest) =
      match d.node? (here ++ [name]) with
      | none => if rest.isEmpty then .ok ⟨here ++ [name], none⟩ else .error .notFound
      | some .directory => d.walk follow fuel links (here ++ [name]) rest
      | some (.link target) =>
        if rest.isEmpty && !follow then .ok ⟨here ++ [name], some (.link target)⟩
        else match links with
          | 0 => .error .tooManyLinks
          | links + 1 =>
            if target.isEmpty then .error .notFound
            else d.walk follow fuel links (if Path.isAbsolute target then [] else here)
              (steps target ++ rest)
      | some node =>
        if rest.isEmpty then .ok ⟨here ++ [name], some node⟩ else .error .notADirectory := by
  rw [walk, if_neg hdot, if_neg hup]
  exact if_neg hlong

/-- A walk that comes to a place it cannot go on from ends there. -/
lemma walk_name_of_end (hdot : ¬(name == ".") = true) (hup : ¬(name == "..") = true)
    (hlong : ¬255 < name.utf8ByteSize) (hrest : rest.isEmpty = true)
    (h : ∀ node, d.node? (here ++ [name]) = some node → ¬IsPassage node) :
    d.walk follow (fuel + 1) links here (name :: rest) =
      .ok ⟨here ++ [name], d.node? (here ++ [name])⟩ := by
  rw [walk_name hdot hup hlong]
  revert h
  cases d.node? (here ++ [name]) with
  | none => exact fun _ => if_pos hrest
  | some node =>
    intro h
    cases node with
    | directory => exact absurd trivial (h _ rfl)
    | link => exact absurd trivial (h _ rfl)
    | _ => exact if_pos hrest

/-- A walk goes the same way where all directories and links stand that it can pass, unless it could
go on from its end there. -/
theorem walk_of_passages
    (hpass : ∀ q node, d.node? q = some node → IsPassage node → d'.node? q = some node)
    (h : d.walk follow fuel links here names = .ok found)
    (hend : ∀ node, d'.node? found.place = some node → IsPassage node →
      d.node? found.place = some node) :
    d'.walk follow fuel links here names = .ok ⟨found.place, d'.node? found.place⟩ := by
  fun_induction walk d follow fuel links here names with
  | case2 fuel _ _ hfuel =>
    obtain ⟨fuel, rfl⟩ := Nat.exists_eq_succ_of_ne_zero hfuel
    cases h
    exact walk_nil
  | case3 _ _ _ _ _ hdot ih =>
    rw [walk, if_pos hdot]
    exact ih h
  | case4 _ _ _ _ _ hdot hup ih =>
    rw [walk, if_neg hdot, if_pos hup]
    exact ih h
  | case6 _ _ here name rest hdot hup hlong there hnode hrest =>
    cases h
    refine walk_name_of_end hdot hup hlong hrest fun node hnode' hpassage => ?_
    exact absurd (hnode.symm.trans (hend node hnode' hpassage)) nofun
  | case8 _ _ _ _ _ hdot hup hlong there hnode ih =>
    rw [walk_name hdot hup hlong, hpass _ _ hnode trivial]
    exact ih h
  | case9 _ _ _ _ _ hdot hup hlong there _ hnode hrest =>
    cases h
    rw [walk_name hdot hup hlong, hpass _ _ hnode trivial]
    exact if_pos hrest
  | case12 _ _ _ _ hdot hup hlong there _ hnode hrest _ htarget _ ih =>
    rw [walk_name hdot hup hlong, hpass _ _ hnode trivial]
    dsimp only
    rw [if_neg hrest, if_neg htarget]
    exact ih h
  | case13 _ _ _ _ _ hdot hup hlong there node hdir hlink hnode hrest =>
    cases h
    refine walk_name_of_end hdot hup hlong hrest fun node' hnode' hpassage => ?_
    cases Option.some.inj (hnode.symm.trans (hend node' hnode' hpassage))
    cases node with
    | directory => exact hdir rfl
    | link target => exact hlink target rfl
    | _ => exact hpassage
  | _ => cases h

/-- Once what stood at the end of a walk is gone, nothing is found there, whether the walk came by before
or not.  Directories are not taken away. -/
theorem walk_of_gone {follow' : Bool} (hother : ∀ q, q ≠ place → d'.node? q = d.node? q)
    (hplace : d'.node? place = none) (hdir : d.node? place ≠ some .directory)
    (h : d.walk false fuel links here names = .ok found) (hfound : found.place = place) :
    d'.walk follow' fuel links here names = .ok ⟨place, none⟩ ∨
      d'.walk follow' fuel links here names = .error .notFound := by
  fun_induction walk d false fuel links here names with
  | case2 fuel _ _ hfuel =>
    obtain ⟨fuel, rfl⟩ := Nat.exists_eq_succ_of_ne_zero hfuel
    cases h
    cases hfound
    exact Or.inl (walk_nil.trans (by rw [hplace]))
  | case3 _ _ _ _ _ hdot ih =>
    rw [walk, if_pos hdot]
    exact ih h
  | case4 _ _ _ _ _ hdot hup ih =>
    rw [walk, if_neg hdot, if_pos hup]
    exact ih h
  | case6 _ _ here name rest hdot hup hlong there hnode hrest =>
    cases h
    cases hfound
    rw [walk_name hdot hup hlong, hplace]
    exact Or.inl (if_pos hrest)
  | case8 _ _ _ _ _ hdot hup hlong there hnode ih =>
    have hne : there ≠ place := fun heq => hdir (heq ▸ hnode)
    rw [walk_name hdot hup hlong, hother _ hne, hnode]
    exact ih h
  | case9 _ _ _ _ _ hdot hup hlong there _ hnode hrest =>
    cases h
    cases hfound
    rw [walk_name hdot hup hlong, hplace]
    exact Or.inl (if_pos (by simpa using hrest))
  | case12 _ _ _ rest hdot hup hlong there _ hnode hrest _ htarget _ ih =>
    rw [walk_name hdot hup hlong]
    have hmore : ¬ rest.isEmpty = true := fun hempty => hrest (by simpa using hempty)
    by_cases heq : there = place
    -- the walk passed the place on its way
    · have hnone : d'.node? there = none := heq ▸ hplace
      rw [hnone]
      exact Or.inr (if_neg hmore)
    · rw [hother _ heq, hnode]
      dsimp only
      rw [if_neg (by simp [hmore]), if_neg htarget]
      exact ih h
  | case13 _ _ _ _ _ hdot hup hlong there node _ _ hnode hrest =>
    cases h
    cases hfound
    rw [walk_name hdot hup hlong, hplace]
    exact Or.inl (if_pos hrest)
  | _ => cases h

/-- Unless it ends at a link, a walk that does not follow a link at its end goes as one that does. -/
theorem walk_follow
    (h : ∀ q target, d.walk false fuel links here names ≠ .ok ⟨q, some (.link target)⟩) :
    d.walk true fuel links here names = d.walk false fuel links here names := by
  induction fuel generalizing links here names with
  | zero => rfl
  | succ fuel ih =>
    cases names with
    | nil => rfl
    | cons name rest =>
      by_cases hdot : (name == ".") = true
      · simp only [walk, if_pos hdot] at h ⊢
        exact ih h
      by_cases hup : (name == "..") = true
      · simp only [walk, if_neg hdot, if_pos hup] at h ⊢
        exact ih h
      by_cases hlong : 255 < name.utf8ByteSize
      · simp only [walk, if_neg hdot, if_neg hup, if_pos hlong]
      rw [walk_name hdot hup hlong] at h ⊢
      rw [walk_name hdot hup hlong]
      cases hnode : d.node? (here ++ [name]) with
      | none => rfl
      | some node =>
        simp only [hnode] at h
        cases node with
        | directory => exact ih h
        | link target =>
          -- Within a path a link is followed either way, and at its end none is met.
          by_cases hrest : rest.isEmpty = true
          · exact absurd (if_pos (by simp [hrest])) (h (here ++ [name]) target)
          · cases links with
            | zero => simp [hrest]
            | succ links =>
              by_cases htarget : target.isEmpty = true
              · simp [hrest, htarget]
              · simp only [hrest, htarget] at h ⊢
                exact ih h
        | _ => rfl

end

end BotKeeper.Disk
