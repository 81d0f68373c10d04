/-
# One file of a tree

A path at which a file stands, or at which one can be put, stays one when the file is written or removed.
What is read there afterwards is what was written, whatever stood there before, or that there is nothing.
-/
import BotKeeper.Disk.Files
import BotKeeper.Proofs.Disk.Walk

namespace BotKeeper.Disk

variable {d d' : Disk} {place here : Place} {path dir : String} {follow : Bool}

/-! ## Where a path leads -/

lemma node?_of_find {found : Found} (h : d.find here path follow = .ok found) :
    found.node? = d.node? found.place := by
  rw [find] at h
  split at h
  · cases h
  split at h
  · cases h
  exact node?_of_walk h

/-- Unless it leads to a link, a path leads to the same whether or not a link at its end is
followed. -/
lemma find_follow (h : ∀ q target, d.find here path false ≠ .ok ⟨q, some (.link target)⟩) :
    d.find here path true = d.find here path false := by
  unfold find at h ⊢
  split
  · rfl
  · split
    · rfl
    · rename_i hnul hempty
      refine walk_follow fun q target => ?_
      have hlink := h q target
      rwa [if_neg hnul, if_neg hempty] at hlink

lemma findNode_of_some {node : Node} (h : d.find here path follow = .ok ⟨place, some node⟩) :
    d.findNode here path follow = .ok (place, node) := by
  rw [findNode, h]
  rfl

lemma findNode_of_none (h : d.find here path follow = .ok ⟨place, none⟩) :
    d.findNode here path follow = .error .notFound := by
  rw [findNode, h]
  rfl

lemma findNode_of_error {e : SystemError} (h : d.find here path follow = .error e) :
    d.findNode here path follow = .error e := by
  rw [findNode, h]
  rfl

lemma isDirectory_iff :
    d.isDirectory here path = true ↔ ∃ q, d.find here path = .ok ⟨q, some .directory⟩ := by
  constructor
  · intro h
    unfold isDirectory at h
    match hfind : d.find here path with
    | .error e =>
      rw [findNode_of_error hfind] at h
      cases h
    | .ok ⟨q, none⟩ =>
      rw [findNode_of_none hfind] at h
      cases h
    | .ok ⟨q, some node⟩ =>
      rw [findNode_of_some hfind] at h
      cases node with
      | directory => exact ⟨q, rfl⟩
      | _ => cases h
  · rintro ⟨q, h⟩
    rw [isDirectory, findNode_of_some h]

lemma read_of_isDirectory (h : d.isDirectory here path = true) :
    d.read here path = .error .isADirectory := by
  obtain ⟨place, hfind⟩ := isDirectory_iff.1 h
  rw [read, findNode_of_some hfind]
  rfl

/-- A path leads to the same place where all directories and links stand that it can pass, unless it
could be followed from its end there. -/
theorem find_of_passages {found : Found}
    (hpass : ∀ q node, d.node? q = some node → IsPassage node → d'.node? q = some node)
    (h : d.find here path follow = .ok found)
    (hend : ∀ node, d'.node? found.place = some node → IsPassage node →
      d.node? found.place = some node) :
    d'.find here path follow = .ok ⟨found.place, d'.node? found.place⟩ := by
  unfold find at h ⊢
  split at h
  · cases h
  split at h
  · cases h
  rename_i hnul hempty
  rw [if_neg hnul, if_neg hempty]
  exact walk_of_passages hpass h hend

section
variable (hagree : ∀ q, q ≠ place → d'.node? q = d.node? q) (hplace : FileOrNone (d.node? place))
  (hplace' : FileOrNone (d'.node? place))
include hagree hplace hplace'

/-- A path leads to the same place when something else is put where a file stands or nothing. -/
lemma find_of_agree {found : Found} (h : d.find here path follow = .ok found) :
    d'.find here path follow = .ok ⟨found.place, d'.node? found.place⟩ := by
  refine find_of_passages (fun q node hnode hpassage => ?_) h fun node hnode hpassage => ?_
  · rw [hagree q, hnode]
    rintro rfl
    exact not_isPassage (hnode ▸ hplace) hpassage
  · rw [← hagree found.place, hnode]
    intro heq
    exact not_isPassage (hnode ▸ heq ▸ hplace') hpassage

lemma isDirectory_of_agree (h : d.isDirectory here dir = true) :
    d'.isDirectory here dir = true := by
  obtain ⟨q, hfind⟩ := isDirectory_iff.mp h
  have hq : some .directory = d.node? q := node?_of_find hfind
  have hne : q ≠ place := by
    rintro rfl
    rw [← hq] at hplace
    exact hplace
  refine isDirectory_iff.mpr ⟨q, ?_⟩
  rw [find_of_agree hagree hplace hplace' hfind, hagree q hne, hq]

end

/-- Nothing is done to make a directory that is there. -/
lemma createDirAll_of_isDirectory (h : d.isDirectory here dir = true) :
    d.createDirAll here dir = .ok d := by
  obtain ⟨q, hfind⟩ := isDirectory_iff.mp h
  have hnew : d.createDir here dir = .error .alreadyExists := by
    -- Were it not for the link it may be, the directory would be found without following it too.
    match hraw : d.find here dir false with
    | .ok ⟨_, some node⟩ =>
      rw [createDir, hraw]
      rfl
    | .ok ⟨_, none⟩ =>
      rw [find_follow (by simp [hraw]), hraw] at hfind
      cases hfind
    | .error e =>
      rw [find_follow (by simp [hraw]), hraw] at hfind
      cases hfind
  rw [createDirAll, createDirs, hnew]
  simp [h]

/-! ## Files that can be written -/

/-- A file stands at a path, or nothing does and the directory above is there. -/
structure TakesFile (d : Disk) (here : Place) (path : String) : Prop where
  dir : ∀ dir, Path.parent? path = some dir → d.isDirectory here dir = true
  leads : ∃ place node?, d.find here path false = .ok ⟨place, node?⟩ ∧ FileOrNone node?

lemma readText_of_find {s : String} {runnable : Bool}
    (h : d.find here path = .ok ⟨place, some (.file (.text s) runnable)⟩) :
    d.readText here path = .ok s := by
  rw [readText, read, findNode_of_some h]
  rfl

lemma readText_of_find_none (h : d.find here path = .ok ⟨place, none⟩) :
    d.readText here path = .error .notFound := by
  rw [readText, read, findNode_of_none h]
  rfl

lemma readText_of_find_error {e : SystemError} (h : d.find here path = .error e) :
    d.readText here path = .error e := by
  rw [readText, read, findNode_of_error h]
  rfl

namespace TakesFile

/-- The path leads to one place, whether or not a link at its end is followed. -/
lemma find (h : d.TakesFile here path) : ∃ place, FileOrNone (d.node? place) ∧
    ∀ follow, d.find here path follow = .ok ⟨place, d.node? place⟩ := by
  obtain ⟨place, node?, hfind, hplain⟩ := h.leads
  have hnode : node? = d.node? place := node?_of_find hfind
  subst hnode
  have hfollow : d.find here path true = d.find here path false := by
    refine find_follow fun q target hlink => ?_
    rw [hfind] at hlink
    injection hlink with hlink
    injection hlink with _ hlink
    rw [hlink] at hplain
    exact hplain
  refine ⟨place, hplain, fun follow => ?_⟩
  cases follow with
  | false => exact hfind
  | true => exact hfollow.trans hfind

lemma of_agree (h : d.TakesFile here path) (hagree : ∀ q, q ≠ place → d'.node? q = d.node? q)
    (hplace : FileOrNone (d.node? place)) (hplace' : FileOrNone (d'.node? place)) :
    d'.TakesFile here path where
  dir dir hdir := isDirectory_of_agree hagree hplace hplace' (h.dir dir hdir)
  leads := by
    obtain ⟨q, hplain, hfind⟩ := h.find
    refine ⟨q, d'.node? q, find_of_agree hagree hplace hplace' (hfind false), ?_⟩
    by_cases hq : q = place
    · rwa [hq]
    · rwa [hagree q hq]

/-- What was written is read, whatever stood there before. -/
theorem write (h : d.TakesFile here path) (hlast : (steps path).getLast? ≠ some ".") (s : String) :
    ∃ d', d.write here path (.text s) = .ok d' ∧ d'.TakesFile here path ∧
      d'.readText here path = .ok s := by
  obtain ⟨place, hplain, hfind⟩ := h.find
  obtain ⟨runnable, hwrite⟩ : ∃ runnable,
      d.write here path (.text s) = .ok (d.put place (.file (.text s) runnable)) := by
    have hlast' : ((steps path).getLast? == some ".") = false := beq_false_of_ne hlast
    rw [Disk.write, hfind true]
    cases hnode : d.node? place with
    | none => exact ⟨false, if_neg (by simp [hlast'])⟩
    | some node =>
      rw [hnode] at hplain
      cases node with
      | file _ runnable => exact ⟨runnable, rfl⟩
      | _ => exact hplain.elim
  have hself : (d.put place (.file (.text s) runnable)).node? place =
      some (.file (.text s) runnable) := node?_put_self hplain.ne_nil
  have hagree : ∀ q, q ≠ place → (d.put place (.file (.text s) runnable)).node? q = d.node? q :=
    fun q hq => node?_put_of_ne hq
  have hplain' : FileOrNone ((d.put place (.file (.text s) runnable)).node? place) := by
    rw [hself]
    trivial
  have hread := find_of_agree hagree hplain hplain' (hfind true)
  rw [hself] at hread
  exact ⟨_, hwrite, h.of_agree hagree hplain hplain', readText_of_find hread⟩

/-- A file is removed, and nothing is read any more; where nothing stands, nothing can be removed. -/
theorem remove (h : d.TakesFile here path) :
    (∃ d', d.removeFile here path = .ok d' ∧ d'.TakesFile here path ∧
        d'.readText here path = .error .notFound) ∨
      d.removeFile here path = .error .notFound ∧ d.readText here path = .error .notFound := by
  obtain ⟨place, hplain, hfind⟩ := h.find
  cases hnode : d.node? place with
  | none =>
    rw [hnode] at hfind
    refine Or.inr ⟨?_, readText_of_find_none (hfind true)⟩
    rw [removeFile, findNode_of_none (hfind false)]
    rfl
  | some node =>
    refine Or.inl ⟨d.erase place, ?_⟩
    have hself : (d.erase place).node? place = none := node?_erase_self hplain.ne_nil
    have hagree : ∀ q, q ≠ place → (d.erase place).node? q = d.node? q :=
      fun q hq => node?_erase_of_ne hq
    have hplain' : FileOrNone ((d.erase place).node? place) := by
      rw [hself]
      trivial
    have hread := find_of_agree hagree hplain hplain' (hfind true)
    rw [hself] at hread
    refine ⟨?_, h.of_agree hagree hplain hplain', readText_of_find_none hread⟩
    have hraw := hfind false
    rw [hnode] at hraw hplain
    rw [removeFile, findNode_of_some hraw]
    cases node with
    | file => rfl
    | _ => exact hplain.elim

end TakesFile

/-- A file stands at a path or can be put there, if need be in a directory that is made for it. -/
def CanTakeFile (d : Disk) (here : Place) (path : String) : Prop :=
  d.TakesFile here path ∨
    d.find here path false = .error .notFound ∧
      ∃ dir d', Path.parent? path = some dir ∧ d.createDirAll here dir = .ok d' ∧
        d'.TakesFile here path

namespace CanTakeFile

/-- The directory of the file is there or is made. -/
lemma createDirAll (h : d.CanTakeFile here path) (hdir : Path.parent? path = some dir) :
    ∃ d', d.createDirAll here dir = .ok d' ∧ d'.TakesFile here path := by
  rcases h with h | ⟨_, dir', d', hdir', hmade, h⟩
  · exact ⟨d, createDirAll_of_isDirectory (h.dir dir hdir), h⟩
  · rw [hdir] at hdir'
    cases hdir'
    exact ⟨d', hmade, h⟩

lemma takesFile (h : d.CanTakeFile here path) (hdir : Path.parent? path = none) :
    d.TakesFile here path := by
  rcases h with h | ⟨_, dir, _, hdir', _⟩
  · exact h
  · rw [hdir] at hdir'
    cases hdir'

theorem remove (h : d.CanTakeFile here path) :
    (∃ d', d.removeFile here path = .ok d' ∧ d'.CanTakeFile here path ∧
        d'.readText here path = .error .notFound) ∨
      d.removeFile here path = .error .notFound ∧ d.readText here path = .error .notFound := by
  rcases h with h | ⟨hfind, _⟩
  · rcases h.remove with ⟨d', hremove, h', hread⟩ | hnone
    · exact Or.inl ⟨d', hremove, Or.inl h', hread⟩
    · exact Or.inr hnone
  · have hfollow : d.find here path = .error .notFound :=
      (find_follow (by simp [hfind])).trans hfind
    refine Or.inr ⟨?_, readText_of_find_error hfollow⟩
    rw [removeFile, findNode_of_error hfind]
    rfl

end CanTakeFile

/-! ## What is left of a file that was removed -/

lemma find_of_findNode {node : Node} (h : d.findNode here path follow = .ok (place, node)) :
    d.find here path follow = .ok ⟨place, some node⟩ := by
  match hfind : d.find here path follow with
  | .error e =>
    rw [findNode_of_error hfind] at h
    cases h
  | .ok ⟨q, none⟩ =>
    rw [findNode_of_none hfind] at h
    cases h
  | .ok ⟨q, some node'⟩ =>
    rw [findNode_of_some hfind] at h
    cases h
    rfl

lemma read_of_findNode_error {e : SystemError} (h : d.findNode here path = .error e) :
    d.read here path = .error e := by
  rw [read, h]
  rfl

lemma findNode_of_gone (hother : ∀ q, q ≠ place → d'.node? q = d.node? q)
    (hplace : d'.node? place = none) (hdir : d.node? place ≠ some .directory) {node? : Option Node}
    (h : d.find here path false = .ok ⟨place, node?⟩) :
    d'.findNode here path follow = .error .notFound := by
  unfold find at h
  split at h
  · cases h
  split at h
  · cases h
  rename_i hnul hempty
  have hfind : d'.find here path follow = d'.walk follow (path.length + 200000) 40
    (if Path.isAbsolute path then [] else here) (steps path) := by
      rw [find, if_neg hnul, if_neg hempty]
  rcases walk_of_gone hother hplace hdir h rfl with hwalk | hwalk
  · exact findNode_of_none (hfind.trans hwalk)
  · exact findNode_of_error (hfind.trans hwalk)

/-- Where something was removed, whatever it was, there is nothing to be read. -/
theorem read_of_removeFile (h : d.removeFile here path = .ok d') :
    d'.read here path = .error .notFound := by
  rw [removeFile] at h
  match hnode : d.findNode here path false with
  | .error e =>
    rw [hnode] at h
    cases h
  | .ok (place, node) =>
    have hfind := find_of_findNode hnode
    have hplace : some node = d.node? place := node?_of_find hfind
    rw [hnode] at h
    have hplain : node ≠ .directory ∧ d' = d.erase place := by
      cases node with
      | directory => cases h
      | _ =>
        cases h
        exact ⟨nofun, rfl⟩
    obtain ⟨hdir, rfl⟩ := hplain
    have hdir' : d.node? place ≠ some .directory := by
      rw [← hplace]
      simpa using hdir
    have hne : place ≠ [] := by
      rintro rfl
      exact hdir' rfl
    exact read_of_findNode_error
      (findNode_of_gone (fun q hq => node?_erase_of_ne hq) (node?_erase_self hne) hdir' hfind)

end BotKeeper.Disk

/-! ## The disk of a world -/

lemma BotKeeper.Lens.whole_get {W : Type} (w : W) : Lens.whole.get w = w := rfl

namespace BotKeeper.Files

variable {W : Type} {disk : Lens W Disk} {w : W}

lemma change_of_ok (change : Disk → Except SystemError Disk) {d : Disk}
    (h : change (disk.get w) = .ok d) : Files.change disk change w = (.ok (), disk.set d w) := by
  rw [Files.change, h]

lemma change_of_error (change : Disk → Except SystemError Disk) {e : SystemError}
    (h : change (disk.get w) = .error e) : Files.change disk change w = (.error e, w) := by
  rw [Files.change, h]

end BotKeeper.Files
