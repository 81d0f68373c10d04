/-
# Where entry points end

An entry point of the bot ends with an argument that holds no blanks.  So where a line goes on
behind a blank or a slash, an entry point either ends before it or has its last argument cut off
there.  Two kinds of lines are settled this way: an npm script behind the name of a program
(`managedLine_run_iff`), and the file of the compiled bot behind a folder (`managedLine_index_iff`).
-/
import BotKeeper.Proofs.Pattern.Managed

namespace BotKeeper

variable {u v w x : List Char} {b : Char}

/-! ## Cutting lines -/

/-- What does not hold a character lies behind the places where the character stands. -/
lemma exists_of_append_eq (h : x ++ w = u ++ b :: v) (hb : b ∉ w) :
    ∃ m, v = m ++ w ∧ x = u ++ b :: m := by
  rcases List.append_eq_append_iff.1 h with ⟨a, -, rfl⟩ | ⟨a, rfl, ha⟩
  · simp at hb
  · cases a with
    | nil =>
      obtain rfl : b :: v = w := ha
      simp at hb
    | cons c m =>
      obtain ⟨rfl, rfl⟩ := List.cons.inj ha
      exact ⟨m, rfl, rfl⟩

lemma IsSolid.append (hu : IsSolid u) (hv : IsSolid v) : IsSolid (u ++ v) := by
  intro c hc
  exact (List.mem_append.1 hc).elim (hu c) (hv c)

lemma IsSolid.not_mem (hw : IsSolid w) (hb : Text.isBlank b = true) : b ∉ w := by
  intro hmem
  simp [hw b hmem] at hb

lemma IsGap.exists_eq {gap : List Char} (h : IsGap gap) :
    ∃ blanks c, gap = blanks ++ [c] ∧ AreBlanks blanks ∧ Text.isBlank c = true := by
  rcases List.eq_nil_or_concat' gap with rfl | ⟨blanks, c, rfl⟩
  · exact absurd rfl h.1
  · exact ⟨blanks, c, rfl, fun d hd => h.2 d (by simp [hd]), h.2 c (by simp)⟩

lemma AreBlanks.isGap (h : AreBlanks w) (hb : Text.isBlank b = true) : IsGap (w ++ [b]) := by
  refine ⟨by simp, fun c hc => ?_⟩
  rcases List.mem_append.1 hc with hc | hc
  · exact h c hc
  · rwa [List.mem_singleton.1 hc]

/-- Blanks at the end of a text that does not end with a blank: there are none. -/
lemma AreBlanks.eq_nil (h : AreBlanks w) (hx : x ++ w = u ++ [b]) (hb : Text.isBlank b = false) :
    w = [] := by
  rcases List.eq_nil_or_concat' w with rfl | ⟨blanks, c, rfl⟩
  · rfl
  · rw [← List.append_assoc] at hx
    have hcb : c = b := by simpa using (List.append_inj' hx rfl).2
    simp [← hcb, h c (by simp)] at hb

lemma IsSlash.isSolid {slash : Char} (h : IsSlash slash) : IsSolid [slash] := by
  rcases h with rfl | rfl <;> decide

lemma IsFolder.isSolid {folder : List Char} (h : IsFolder folder) : IsSolid folder := by
  rcases h with rfl | ⟨d, slash, rfl, hd, hslash⟩
  · decide
  · exact hd.append hslash.isSolid

/-! ## The end of an entry point -/

variable {command argument gap r : List Char}

lemma RunsBot.isSolid (h : RunsBot command argument) : IsSolid argument := by
  cases h with
  | script before npm gap hcommand hnpm hgap hargument =>
    have hsolid : ∀ script ∈ scriptNames, IsSolid script := by decide
    exact hsolid argument hargument
  | built before node folder slash hcommand hbefore hnode hargument hfolder hslash =>
    rw [hargument]
    exact ((hfolder.isSolid.append (by decide)).append hslash.isSolid).append (by decide)
  | source before variant folder slash hcommand hvariant hargument hfolder hslash =>
    rw [hargument]
    exact ((hfolder.isSolid.append (by decide)).append hslash.isSolid).append (by decide)

/-- What entry points end with. -/
def entryNames : List (List Char) := scriptNames ++ ["index.js".toList, "index.ts".toList]

lemma RunsBot.exists_suffix (h : RunsBot command argument) :
    ∃ name ∈ entryNames, name <:+ argument := by
  cases h with
  | script before npm gap hcommand hnpm hgap hargument =>
    exact ⟨argument, List.mem_append_left _ hargument, List.suffix_rfl⟩
  | built before node folder slash hcommand hbefore hnode hargument hfolder hslash =>
    exact ⟨"index.js".toList, by decide, hargument ▸ List.suffix_append ..⟩
  | source before variant folder slash hcommand hvariant hargument hfolder hslash =>
    exact ⟨"index.ts".toList, by decide, hargument ▸ List.suffix_append ..⟩

lemma ManagedLine.exists_name {line : List Char} (h : ManagedLine line) :
    ∃ name ∈ entryNames, name <:+: line := by
  obtain ⟨front, after, rfl, ⟨command, gap, argument, rfl, -, hruns⟩, -⟩ := h
  obtain ⟨name, hname, hsuffix⟩ := hruns.exists_suffix
  exact ⟨name, hname, (hsuffix.isInfix.trans (List.suffix_append ..).isInfix).trans
    (List.prefix_append ..).isInfix⟩

lemma not_managedLine_of_isSolid {line : List Char} (h : IsSolid line) : ¬ ManagedLine line := by
  rintro ⟨front, after, rfl, ⟨command, gap, argument, rfl, hgap, -⟩, -⟩
  obtain ⟨c, hc⟩ := List.exists_mem_of_ne_nil gap hgap.1
  exact h.not_mem (hgap.2 c hc) (by simp [hc])

/-- The argument of an entry point is what stands behind its last blank. -/
lemma RunsBot.argument_eq (h : RunsBot command argument) (hgap : IsGap gap)
    (hb : Text.isBlank b = true) (hr : IsSolid r) (heq : command ++ gap ++ argument = u ++ b :: r) :
    argument = r ∧ ∃ blanks, AreBlanks blanks ∧ u = command ++ blanks := by
  obtain ⟨blanks, c, rfl, hblanks, hc⟩ := hgap.exists_eq
  obtain ⟨m, rfl, hfront⟩ := exists_of_append_eq heq (h.isSolid.not_mem hb)
  rcases List.eq_nil_or_concat' m with rfl | ⟨m, d, rfl⟩
  · refine ⟨rfl, blanks, hblanks, ?_⟩
    rw [← List.append_assoc] at hfront
    exact (List.append_inj' hfront rfl).1.symm
  · -- the last character of the gap would not be a blank
    rw [← List.append_assoc, ← List.cons_append, ← List.append_assoc] at hfront
    have hcd : c = d := by simpa using (List.append_inj' hfront rfl).2
    simp [hr c (by simp [hcd])] at hc

/-! ## Lines that go on behind a text -/

lemma endsWord_cons (hb : Unicode.isWord b = false) : EndsWord (b :: v) := by
  simpa [EndsWord] using hb

lemma EndsWord.append (hu : EndsWord u) (hv : EndsWord v) : EndsWord (u ++ v) := by
  cases u with
  | nil => exact hv
  | cons c u => exact hu

lemma EndsWord.of_append (h : EndsWord (u ++ v)) : EndsWord u := by
  cases u with
  | nil => simp [EndsWord]
  | cons c u => exact h

/-- An entry point in a text that goes on behind a word ends there or in what follows. -/
lemma managedLine_append (hv : EndsWord v) :
    ManagedLine (u ++ v) ↔ ManagedLine u ∨
      ∃ w rest, v = w ++ rest ∧ w ≠ [] ∧ EndsInEntry (u ++ w) ∧ EndsWord rest := by
  constructor
  · rintro ⟨front, after, heq, hfront, hafter⟩
    rcases List.append_eq_append_iff.1 heq with ⟨w, rfl, rfl⟩ | ⟨a, rfl, rfl⟩
    · by_cases hw : w = []
      · subst hw
        exact Or.inl ⟨u, [], by simp, by simpa using hfront, by decide⟩
      · exact Or.inr ⟨w, after, rfl, hw, hfront, hafter⟩
    · exact Or.inl ⟨front, a, rfl, hfront, hafter.of_append⟩
  · rintro (⟨front, after, rfl, hfront, hafter⟩ | ⟨w, rest, rfl, -, hfront, hrest⟩)
    · exact ⟨front, after ++ v, by simp, hfront, hafter.append hv⟩
    · exact ⟨u ++ w, rest, by simp, hfront, hrest⟩

/-! ## Scripts -/

/-- A text that ends with a name of npm, up to blanks. -/
def EndsInNpm (program : List Char) : Prop :=
  ∃ before npm blanks, program = before ++ npm ++ blanks ∧ npm ∈ npmNames ∧ AreBlanks blanks

lemma endsInNpm_iff_of_isSolid {program : List Char} (h : IsSolid program) :
    EndsInNpm program ↔ ∃ npm ∈ npmNames, npm <:+ program := by
  constructor
  · rintro ⟨before, npm, blanks, rfl, hnpm, hblanks⟩
    have hnone : blanks = [] := List.eq_nil_iff_forall_not_mem.2 fun c hc =>
      h.not_mem (hblanks c hc) (by simp [hc])
    exact ⟨npm, hnpm, before, by simp [hnone]⟩
  · rintro ⟨npm, hnpm, before, rfl⟩
    exact ⟨before, npm, [], by simp, hnpm, by decide⟩

/-- A script whose name begins like the name of a script that runs the bot, where a word ends. -/
def BeginsLikeScript (script : List Char) : Prop :=
  ∃ known ∈ scriptNames, ∃ rest, script = known ++ rest ∧ EndsWord rest

lemma not_runsBot_within_run (h : RunsBot command argument) : ¬ argument <+: "run".toList := by
  intro hprefix
  obtain ⟨name, hname, hsuffix⟩ := h.exists_suffix
  have hnone : ∀ name ∈ entryNames, ¬ name <:+: "run".toList := by decide
  exact hnone name hname (hsuffix.isInfix.trans hprefix.isInfix)

/-- A command that ends with `run` behind a program runs npm. -/
lemma RunsBot.of_run (h : RunsBot (u ++ " run".toList) argument) :
    EndsInNpm u ∧ argument ∈ scriptNames := by
  cases h with
  | script before npm gap hcommand hnpm hgap hargument =>
    refine ⟨?_, hargument⟩
    obtain ⟨blanks, c, rfl, hblanks, -⟩ := hgap.exists_eq
    have hcut : u ++ [' '] = before ++ npm ++ blanks ++ [c] := by
      have hsplit : " run".toList = [' '] ++ "run".toList := rfl
      rw [hsplit, ← List.append_assoc] at hcommand
      simpa using List.append_cancel_right hcommand
    exact ⟨before, npm, blanks, (List.append_inj' hcut rfl).1, hnpm, hblanks⟩
  | built before node folder slash hcommand hbefore hnode hargument hfolder hslash =>
    simp only [nodeNames, List.mem_cons, List.not_mem_nil, or_false] at hnode
    have hlast := congrArg List.getLast? hcommand
    rcases hnode with rfl | rfl <;> simp at hlast
  | source before variant folder slash hcommand hvariant hargument hfolder hslash =>
    have hsolid : IsSolid ("ts-node".toList ++ variant) := IsSolid.append (by decide) hvariant
    rw [List.append_assoc] at hcommand
    obtain ⟨m, hm, -⟩ := exists_of_append_eq (b := ' ') (v := "run".toList) hcommand.symm
      (hsolid.not_mem rfl)
    have := congrArg List.length hm
    simp at this
    omega

/-- An entry point that ends within the run of a script is an npm script. -/
lemma RunsBot.of_run_script (h : RunsBot command argument) (hgap : IsGap gap) (hw : IsSolid w)
    (heq : command ++ gap ++ argument = u ++ ' ' :: r) {rest : List Char}
    (hrun : "run".toList ++ ' ' :: w = r ++ rest) :
    EndsInNpm u ∧ argument ∈ scriptNames ∧ w = argument ++ rest := by
  rcases List.append_eq_append_iff.1 hrun with ⟨a, rfl, ha⟩ | ⟨a, ha, -⟩
  · cases a with
    | nil =>
      -- the argument would be the word in front of the script
      obtain ⟨rfl, -⟩ := h.argument_eq (u := u) (r := "run".toList) hgap rfl (by decide)
        (by simpa using heq)
      exact absurd (List.prefix_refl _) (not_runsBot_within_run h)
    | cons d t =>
      obtain ⟨rfl, rfl⟩ : ' ' = d ∧ w = t ++ rest := by simpa using ha
      have ht : IsSolid t := fun c hc => hw c (by simp [hc])
      obtain ⟨rfl, blanks, hblanks, hcommand⟩ :=
        h.argument_eq (u := u ++ " run".toList) hgap rfl ht (by simpa using heq)
      obtain rfl : blanks = [] :=
        hblanks.eq_nil (u := u ++ " ru".toList) (b := 'n') (by simpa using hcommand.symm) rfl
      obtain rfl : command = u ++ " run".toList := by simpa using hcommand.symm
      exact ⟨h.of_run.1, h.of_run.2, rfl⟩
  · have hword : IsSolid "run".toList := by decide
    obtain ⟨rfl, -⟩ := h.argument_eq hgap rfl (fun c hc => hword c (by simp [ha, hc])) heq
    exact absurd ⟨a, ha.symm⟩ (not_runsBot_within_run h)

/-- A program that is told to run a script: the bot is found if the program is npm and the script
begins like one of its own, and otherwise only if it is found in front of all this. -/
theorem managedLine_run_iff (hw : IsSolid w) :
    ManagedLine (u ++ " run ".toList ++ w) ↔
      ManagedLine u ∨ EndsInNpm u ∧ BeginsLikeScript w := by
  have htail : EndsWord (" run ".toList ++ w) :=
    endsWord_cons (b := ' ') (v := "run ".toList ++ w) (by decide +kernel)
  rw [List.append_assoc, managedLine_append htail]
  refine or_congr_right ⟨?_, ?_⟩
  · rintro ⟨v, rest, heq, hv, ⟨command, gap, argument, hfront, hgap, hruns⟩, hrest⟩
    obtain ⟨c, r, rfl⟩ := List.exists_cons_of_ne_nil hv
    obtain ⟨rfl, hrun⟩ : ' ' = c ∧ "run".toList ++ ' ' :: w = r ++ rest := by simpa using heq
    obtain ⟨hnpm, hscript, rfl⟩ := hruns.of_run_script hgap hw hfront.symm hrun
    exact ⟨hnpm, argument, hscript, rest, rfl, hrest⟩
  · rintro ⟨⟨before, npm, blanks, rfl, hnpm, hblanks⟩, known, hknown, rest, rfl, hrest⟩
    refine ⟨" run ".toList ++ known, rest, by simp, by simp, ?_, hrest⟩
    refine ⟨before ++ npm ++ (blanks ++ [' ']) ++ "run".toList, [' '], known, by simp,
      by decide, ?_⟩
    exact .script before npm _ rfl hnpm (hblanks.isGap rfl) hknown

/-! ## The file of the compiled bot -/

/-- A text that ends with node and an argument, or with node and the front of one. -/
def EndsInNodeArgument (line : List Char) : Prop :=
  ∃ before node gap argument, line = before ++ node ++ gap ++ argument ∧ StartsName before ∧
    node ∈ nodeNames ∧ IsGap gap ∧ IsSolid argument

lemma nodeNames_not_mem {node : List Char} (h : node ∈ nodeNames) : '/' ∉ node := by
  have hall : ∀ node ∈ nodeNames, '/' ∉ node := by decide
  exact hall node h

lemma EndsInNodeArgument.isInfix {line : List Char} (h : EndsInNodeArgument line) :
    "node".toList <:+: line := by
  obtain ⟨before, node, gap, argument, rfl, -, hnode, -, -⟩ := h
  obtain ⟨suffix, rfl, -⟩ := ManagedLine.mem_nodeNames.1 hnode
  exact ⟨before, suffix ++ gap ++ argument, by simp⟩

lemma IsGap.not_mem (h : IsGap gap) : '/' ∉ gap := by
  intro hmem
  exact absurd (h.2 _ hmem) (by decide)

/-- What node is given in front of the file, up to the slash between them. -/
lemma endsInNodeArgument_of_folder {before node folder : List Char} (hbefore : StartsName before)
    (hnode : node ∈ nodeNames) (hgap : IsGap gap) (hfolder : IsFolder folder)
    (heq : before ++ node ++ gap ++ folder = u ++ ['/']) : EndsInNodeArgument u := by
  rcases hfolder with rfl | ⟨d, slash, rfl, hd, -⟩
  · obtain ⟨blanks, c, rfl, -, hc⟩ := hgap.exists_eq
    rw [List.append_nil, ← List.append_assoc] at heq
    have hslash : c = '/' := by simpa using (List.append_inj' heq rfl).2
    rw [hslash] at hc
    exact absurd hc (by decide)
  · rw [← List.append_assoc] at heq
    exact ⟨before, node, gap, d, (List.append_inj' heq rfl).1.symm, hbefore, hnode, hgap, hd⟩

/-- An entry point that ends within the file of the compiled bot is the compiled bot. -/
lemma RunsBot.of_index (h : RunsBot command argument) (hgap : IsGap gap)
    (heq : command ++ gap ++ argument = u ++ '/' :: v) (hv : v <+: "dist/index.js".toList) :
    EndsInNodeArgument u := by
  -- a text without slashes at the end of the entry point lies within the file
  have hwithin (w : List Char) (hw : '/' ∉ w) (hargument : w <:+ argument) :
      w <:+: "dist/index.js".toList := by
    obtain ⟨front, rfl⟩ := hargument
    rw [← List.append_assoc] at heq
    obtain ⟨m, rfl, -⟩ := exists_of_append_eq heq hw
    exact (List.suffix_append m w).isInfix.trans hv.isInfix
  cases h with
  | script before npm gap' hcommand hnpm hgap' hargument =>
    have hapart : ∀ script ∈ scriptNames, '/' ∉ script ∧ ¬ script <:+: "dist/index.js".toList := by
      decide
    obtain ⟨hslash, hother⟩ := hapart argument hargument
    exact absurd (hwithin argument hslash List.suffix_rfl) hother
  | source before variant folder slash hcommand hvariant hargument hfolder hslash =>
    have hname : "index.ts".toList <:+ argument := hargument ▸ List.suffix_append ..
    exact absurd (hwithin _ (by decide) hname) (by decide)
  | built before node folder slash hcommand hbefore hnode hargument hfolder hslash =>
    rw [hcommand, hargument, ← List.append_assoc] at heq
    obtain ⟨m, rfl, hm⟩ := exists_of_append_eq heq (by decide)
    obtain rfl : m = "dist/".toList := by
      have hall : ∀ m ∈ List.inits "dist/index.js".toList,
          m ++ "index.js".toList <+: "dist/index.js".toList → m = "dist/".toList := by decide
      exact hall m ((List.mem_inits ..).2 ((List.prefix_append ..).trans hv)) hv
    refine endsInNodeArgument_of_folder hbefore hnode hgap hfolder ?_
    have hm : (before ++ node ++ gap ++ folder) ++ ("dist".toList ++ [slash]) =
        (u ++ ['/']) ++ "dist/".toList := by simpa using hm
    exact (List.append_inj' hm rfl).1

/-- The file of the compiled bot behind the name of a folder: the bot is found if the name ends with
an argument of node, and otherwise only if it is found in front of the file. -/
theorem managedLine_index_iff :
    ManagedLine (u ++ "/dist/index.js".toList) ↔ ManagedLine u ∨ EndsInNodeArgument u := by
  have htail : EndsWord "/dist/index.js".toList := by decide +kernel
  rw [managedLine_append htail]
  refine or_congr_right ⟨?_, ?_⟩
  · rintro ⟨v, rest, heq, hv, ⟨command, gap, argument, hfront, hgap, hruns⟩, -⟩
    obtain ⟨c, r, rfl⟩ := List.exists_cons_of_ne_nil hv
    obtain ⟨rfl, hr⟩ : '/' = c ∧ "dist/index.js".toList = r ++ rest := List.cons.inj heq
    exact hruns.of_index hgap hfront.symm ⟨rest, hr.symm⟩
  · rintro ⟨before, node, gap, argument, rfl, hbefore, hnode, hgap, hargument⟩
    refine ⟨"/dist/index.js".toList, [], rfl, by decide, ⟨before ++ node, gap,
      (argument ++ ['/']) ++ "dist".toList ++ ['/'] ++ "index.js".toList, by simp, hgap, ?_⟩,
      by decide⟩
    exact .built before node _ '/' rfl hbefore hnode rfl
      (Or.inr ⟨argument, '/', rfl, hargument, Or.inl rfl⟩) (Or.inl rfl)

lemma RunsBot.getLast?_ne (h : RunsBot command argument) :
    (u ++ argument).getLast? ≠ some '/' := by
  obtain ⟨name, hname, front, rfl⟩ := h.exists_suffix
  have hlast : ∀ name ∈ entryNames, name.getLast?.any (· != '/') := by decide
  have hname := hlast name hname
  cases h : name.getLast? with
  | none => simp [h] at hname
  | some c =>
    rw [h] at hname
    simpa [List.getLast?_append, h] using hname

/-- No entry point ends with a slash. -/
lemma managedLine_slash_iff : ManagedLine (u ++ ['/']) ↔ ManagedLine u := by
  have htail : EndsWord ['/'] := by decide +kernel
  rw [managedLine_append htail, or_iff_left]
  rintro ⟨v, rest, heq, hv, ⟨command, gap, argument, hfront, -, hruns⟩, -⟩
  obtain ⟨rfl, -⟩ := (List.singleton_eq_append_iff.1 heq).resolve_left fun h => hv h.1
  exact hruns.getLast?_ne (hfront ▸ List.getLast?_concat)

lemma endsInNodeArgument_slash_iff : EndsInNodeArgument (u ++ ['/']) ↔ EndsInNodeArgument u := by
  constructor
  · rintro ⟨before, node, gap, argument, heq, hbefore, hnode, hgap, hargument⟩
    rcases List.eq_nil_or_concat' argument with rfl | ⟨front, c, rfl⟩
    · exact endsInNodeArgument_of_folder hbefore hnode hgap (Or.inl rfl) heq.symm
    · rw [← List.append_assoc] at heq
      obtain ⟨rfl, -⟩ := List.append_inj' heq rfl
      exact ⟨before, node, gap, front, rfl, hbefore, hnode, hgap,
        fun d hd => hargument d (by simp [hd])⟩
  · rintro ⟨before, node, gap, argument, rfl, hbefore, hnode, hgap, hargument⟩
    exact ⟨before, node, gap, argument ++ ['/'], by simp, hbefore, hnode, hgap,
      hargument.append (by decide)⟩

lemma StartsName.append (hu : StartsName u) (hv : StartsName v) : StartsName (u ++ v) := by
  rcases List.eq_nil_or_concat' v with rfl | ⟨v, c, rfl⟩
  · rwa [List.append_nil]
  · simpa [StartsName] using hv

/-- What node is given to run, if it is an absolute path: the text ends with an argument of node if
the path is one, or if the path itself ends so. -/
lemma endsInNodeArgument_node_iff (hu : ∀ c ∈ u.head?, c = '/') :
    EndsInNodeArgument ("node ".toList ++ u) ↔ IsSolid u ∨ EndsInNodeArgument u := by
  constructor
  · rintro ⟨before, node, gap, argument, heq, hbefore, hnode, hgap, hargument⟩
    rcases List.append_eq_append_iff.1 heq with ⟨v, hv, rfl⟩ | ⟨v, -, rfl⟩
    · cases v with
      | nil => exact Or.inl hargument
      | cons c v =>
        obtain rfl : c = '/' := hu c rfl
        obtain ⟨m, rfl, hm⟩ := exists_of_append_eq hv hgap.not_mem
        obtain ⟨m, rfl, rfl⟩ := exists_of_append_eq hm (nodeNames_not_mem hnode)
        refine Or.inr ⟨'/' :: m, node, gap, argument, by simp, ?_, hnode, hgap, hargument⟩
        simpa [StartsName] using hbefore
    · exact Or.inl fun c hc => hargument c (by simp [hc])
  · rintro (hu | ⟨before, node, gap, argument, rfl, hbefore, hnode, hgap, hargument⟩)
    · exact ⟨[], "node".toList, [' '], u, by simp, by simp [StartsName], by decide, by decide, hu⟩
    · have hnext : StartsName ("node ".toList ++ before) := StartsName.append (by decide) hbefore
      exact ⟨"node ".toList ++ before, node, gap, argument, by simp, hnext, hnode, hgap, hargument⟩

end BotKeeper
