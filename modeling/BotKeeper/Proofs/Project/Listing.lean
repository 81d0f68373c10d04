/-
# Packages in a listing

A line of a listing renders a package when one of its words is the name of the package with a version,
and no other word holds an at sign.  The name of a scoped package starts with an at sign of its own, so
no name with an at sign behind it starts another (`startsWith_iff`), and what is missing is what no
line renders as being there (`missing_eq_filter`).
-/
import BotKeeper.Project.Packages
import BotKeeper.Proofs.Text.Blanks

namespace BotKeeper.Packages

/-! ## What a line renders -/

/-- A character that trees are drawn with. -/
def isBranch (c : Char) : Bool :=
  (0x2500 ≤ c.toNat && c.toNat ≤ 0x257F) || "|+-`\\".toList.contains c

/-- The name of a package, which has an at sign in front if the package is scoped. -/
def IsPackageName (name : List Char) : Prop :=
  ∃ bare, bare ≠ [] ∧ '@' ∉ bare ∧ (name = bare ∨ name = '@' :: bare)

/-- The words for a dependency that is not met. -/
def unmetWords : List (List Char) := ["UNMET".toList, "DEPENDENCY".toList]

/-- How a line of a listing renders a package. -/
structure Rendering (line : List Char) where
  /-- The words that draw the tree. -/
  branches : List (List Char)
  /-- Whether the line has the words for an unmet dependency. -/
  hasNotice : Bool
  name : List Char
  version : List Char
  /-- What is said about the package. -/
  remarks : List (List Char)
  words_eq : Text.words line =
    branches ++ (if hasNotice then unmetWords else []) ++ (name ++ '@' :: version) :: remarks
  isBranch_of_mem : ∀ word ∈ branches, ∀ c ∈ word, isBranch c = true
  isPackageName : IsPackageName name
  not_mem_version : '@' ∉ version
  not_mem_remarks : ∀ word ∈ remarks, '@' ∉ word

/-- Whether a line says of its package that it is there. -/
def IsMet (line : List Char) : Prop :=
  ¬ "UNMET".toList <:+: line ∧ ¬ "missing".toList <:+ Text.trimEndChars line

/-- A text each of whose lines renders a package or names none. -/
def IsListing (listing : String) : Prop :=
  ∀ line ∈ Text.lines listing.toList, Nonempty (Rendering line) ∨ ∀ word ∈ Text.words line, '@' ∉ word

/-- A package that a line of a listing renders as one that is there. -/
def IsProvided (listing package : String) : Prop :=
  ∃ line ∈ Text.lines listing.toList, (∃ r : Rendering line, r.name = package.toList) ∧ IsMet line

variable {line name package word : List Char} {listing : String}

/-! ## Names with versions -/

lemma IsPackageName.ne_nil (h : IsPackageName name) : name ≠ [] := by
  obtain ⟨bare, hne, -, rfl | rfl⟩ := h
  · exact hne
  · exact List.cons_ne_nil _ _

/-- A bare name is what stands before the first at sign. -/
lemma takeWhile_bare {bare : List Char} (h : '@' ∉ bare) (rest : List Char) :
    (bare ++ '@' :: rest).takeWhile (· != '@') = bare := by
  have hbare : ∀ c ∈ bare, (c != '@') = true := fun c hc => bne_iff_ne.2 fun heq => h (heq ▸ hc)
  rw [List.takeWhile_append_of_pos hbare, List.takeWhile_cons_of_neg (by simp), List.append_nil]

/-- A name with an at sign behind it starts no other name with its version. -/
lemma startsWith_iff (hpackage : IsPackageName package) (hname : IsPackageName name)
    (version : List Char) : package ++ ['@'] <+: name ++ '@' :: version ↔ package = name := by
  constructor
  · rintro ⟨rest, hrest⟩
    rw [List.append_assoc, List.singleton_append] at hrest
    obtain ⟨bare, hne, hbare, hpackage⟩ := hpackage
    obtain ⟨bare', hne', hbare', hname⟩ := hname
    have hcut (h : bare ++ '@' :: rest = bare' ++ '@' :: version) : bare = bare' := by
      rw [← takeWhile_bare hbare rest, h, takeWhile_bare hbare']
    -- what stands before the first at sign: a bare name, or nothing if the package is scoped
    have hfirst := congrArg (List.takeWhile (· != '@')) hrest
    rcases hpackage with rfl | rfl <;> rcases hname with rfl | rfl
    · exact hcut hrest
    · rw [takeWhile_bare hbare] at hfirst
      exact absurd hfirst hne
    · rw [takeWhile_bare hbare'] at hfirst
      exact absurd hfirst.symm hne'
    · rw [hcut (List.cons.inj hrest).2]
  · rintro rfl
    exact ⟨version, by simp⟩

/-! ## What a listing shows -/

lemma not_mem_of_isBranch (h : ∀ c ∈ word, isBranch c = true) : '@' ∉ word := by
  intro hmem
  exact absurd (h '@' hmem) (by decide)

lemma not_mem_of_unmetWords : ∀ word ∈ unmetWords, '@' ∉ word := by decide

/-- The one word with an at sign is the name with its version. -/
lemma Rendering.mem_words (r : Rendering line) (h : word ∈ Text.words line) (hat : '@' ∈ word) :
    word = r.name ++ '@' :: r.version := by
  rw [r.words_eq, List.mem_append, List.mem_append, List.mem_cons] at h
  rcases h with (hmem | hmem) | rfl | hmem
  · exact absurd hat (not_mem_of_isBranch (r.isBranch_of_mem word hmem))
  · split at hmem
    · exact absurd hat (not_mem_of_unmetWords word hmem)
    · cases hmem
  · rfl
  · exact absurd hat (r.not_mem_remarks word hmem)

lemma mem_of_startsWith (h : package ++ ['@'] <+: word) : '@' ∈ word := h.subset (by simp)

lemma isUnmet_eq_false_iff : isUnmet line = false ↔ IsMet line := by
  rw [isUnmet, IsMet, Bool.or_eq_false_iff, ← Bool.not_eq_true, ← Bool.not_eq_true,
    Text.occursIn_iff, List.isSuffixOf_iff_suffix]

lemma shows_iff {package : String} :
    shows package line = true ↔
      IsMet line ∧ ∃ word ∈ Text.words line, package.toList ++ ['@'] <+: word := by
  simp [shows, isUnmet_eq_false_iff, List.isPrefixOf_iff_prefix]

/-- A listing shows as installed what one of its lines renders as a package that is there. -/
theorem isInstalled_iff (hlisting : IsListing listing) {package : String}
    (hpackage : IsPackageName package.toList) :
    isInstalled listing package = true ↔ IsProvided listing package := by
  rw [isInstalled, List.any_eq_true]
  constructor
  · rintro ⟨line, hline, hshows⟩
    obtain ⟨hmet, word, hword, hstarts⟩ := shows_iff.1 hshows
    have hat := mem_of_startsWith hstarts
    obtain ⟨⟨r⟩⟩ | hnone := hlisting line hline
    · rw [r.mem_words hword hat] at hstarts
      exact ⟨line, hline, ⟨r, ((startsWith_iff hpackage r.isPackageName _).1 hstarts).symm⟩, hmet⟩
    · exact absurd hat (hnone word hword)
  · rintro ⟨line, hline, ⟨r, hname⟩, hmet⟩
    refine ⟨line, hline, shows_iff.2 ⟨hmet, r.name ++ '@' :: r.version, ?_, ?_⟩⟩
    · rw [r.words_eq]
      simp
    · exact (startsWith_iff hpackage r.isPackageName _).2 hname.symm

open Classical in
/-- What a listing is missing are the packages that no line renders as being there, in the order in which
they are required and as often. -/
theorem missing_eq_filter (hlisting : IsListing listing) {required : List String}
    (hrequired : ∀ package ∈ required, IsPackageName package.toList) :
    missing listing required = required.filter fun package => ¬ IsProvided listing package := by
  refine List.filter_congr fun package hpackage => ?_
  rw [Bool.eq_iff_iff, decide_eq_true_iff, ← isInstalled_iff hlisting (hrequired package hpackage)]
  simp

/-! ## Blanks around a listing -/

lemma isMarker_unmet : Text.IsMarker "UNMET".toList := ⟨by decide, by simp [Text.isBlank]⟩

lemma isMarker_missing : Text.IsMarker "missing".toList := ⟨by decide, by simp [Text.isBlank]⟩

lemma isMet_cons_iff {b : Char} (hb : Text.isBlank b = true) : IsMet (b :: line) ↔ IsMet line := by
  rw [IsMet, IsMet, isMarker_unmet.infix_cons_iff hb,
    isMarker_missing.suffix_trimEndChars_cons_iff hb]

lemma isMet_concat_iff {b : Char} (hb : Text.isBlank b = true) : IsMet (line ++ [b]) ↔ IsMet line := by
  rw [IsMet, IsMet, isMarker_unmet.infix_concat_iff hb, Text.trimEndChars_concat_of_isBlank hb]

lemma shows_ignoresBlanks (package : String) : Text.IgnoresBlanks (shows package) where
  nil := by simp [shows, Text.words_nil]
  cons hb := by
    rw [Bool.eq_iff_iff, shows_iff, shows_iff, isMet_cons_iff hb, Text.words_cons_of_isBlank hb]
  concat hb := by
    rw [Bool.eq_iff_iff, shows_iff, shows_iff, isMet_concat_iff hb, Text.words_concat_of_isBlank hb]

/-- Nothing depends on the blanks around a listing. -/
theorem missing_trim (listing : String) (required : List String) :
    missing (Text.trim listing) required = missing listing required := by
  refine List.filter_congr fun package _ => ?_
  rw [isInstalled, isInstalled, Text.trim, String.toList_ofList,
    (shows_ignoresBlanks package).any_lines_trimChars]

end BotKeeper.Packages
