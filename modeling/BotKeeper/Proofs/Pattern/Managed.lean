/-
# Lines of the bot

The bot has entry points of three forms: an npm script, the compiled bot and its sources.  Each is a
command with an argument (`RunsBot`) behind some blanks.  A `ManagedLine` holds an entry point, and
`isMatch_managedPattern` says that the pattern for the bot finds exactly these lines.
-/
import BotKeeper.Process.Query
import BotKeeper.Proofs.Pattern.Matching

namespace BotKeeper

open Pattern

/-! ## The parts of a line -/

/-- Nothing but blanks. -/
def AreBlanks (cs : List Char) : Prop := ∀ c ∈ cs, Text.isBlank c = true

/-- Blanks between two words. -/
def IsGap (cs : List Char) : Prop := cs ≠ [] ∧ AreBlanks cs

/-- Characters other than blanks. -/
def IsSolid (cs : List Char) : Prop := ∀ c ∈ cs, Text.isBlank c = false

/-- A slash of either kind. -/
def IsSlash (c : Char) : Prop := c = '/' ∨ c = '\\'

/-- What may stand in front of the name of a file: nothing, or a folder without blanks and the slash
behind it. -/
def IsFolder (cs : List Char) : Prop :=
  cs = [] ∨ ∃ folder slash, cs = folder ++ [slash] ∧ IsSolid folder ∧ IsSlash slash

/-- No word goes on in what follows. -/
def EndsWord (after : List Char) : Prop := ∀ c ∈ after.head?, Unicode.isWord c = false

/-- The name of a program can begin behind this. -/
def StartsName (before : List Char) : Prop :=
  ∀ c ∈ before.getLast?, Text.isBlank c = true ∨ IsSlash c

-- these instances go through the text; the ones found for them might go through all characters
instance (cs : List Char) : Decidable (AreBlanks cs) := List.decidableBAll _ cs

instance (cs : List Char) : Decidable (IsGap cs) := inferInstanceAs (Decidable (_ ∧ _))

instance (cs : List Char) : Decidable (IsSolid cs) := List.decidableBAll _ cs

instance (c : Char) : Decidable (IsSlash c) := inferInstanceAs (Decidable (_ ∨ _))

instance (after : List Char) : Decidable (EndsWord after) := Option.decidableForallMem _

instance (before : List Char) : Decidable (StartsName before) := Option.decidableForallMem _

/-- The names under which npm runs. -/
def npmNames : List (List Char) := ["npm".toList, "npm.cmd".toList, "npm-cli.js".toList]

/-- The names under which node runs. -/
def nodeNames : List (List Char) := ["node".toList, "node.exe".toList]

/-- The npm scripts that run the bot. -/
def scriptNames : List (List Char) := ["start".toList, "dev".toList]

/-- A text that ends with a command which runs the bot when it is given an argument. -/
inductive RunsBot (command argument : List Char) : Prop
  /-- An npm script. -/
  | script (before npm gap : List Char) (hcommand : command = before ++ npm ++ gap ++ "run".toList)
      (hnpm : npm ∈ npmNames) (hgap : IsGap gap) (hargument : argument ∈ scriptNames)
  /-- The compiled bot. -/
  | built (before node folder : List Char) (slash : Char) (hcommand : command = before ++ node)
      (hbefore : StartsName before) (hnode : node ∈ nodeNames)
      (hargument : argument = folder ++ "dist".toList ++ [slash] ++ "index.js".toList)
      (hfolder : IsFolder folder) (hslash : IsSlash slash)
  /-- The sources of the bot. -/
  | source (before variant folder : List Char) (slash : Char)
      (hcommand : command = before ++ "ts-node".toList ++ variant) (hvariant : IsSolid variant)
      (hargument : argument = folder ++ "src".toList ++ [slash] ++ "index.ts".toList)
      (hfolder : IsFolder folder) (hslash : IsSlash slash)

/-- Texts that end with an entry point of the bot. -/
def EndsInEntry (front : List Char) : Prop :=
  ∃ command gap argument, front = command ++ gap ++ argument ∧ IsGap gap ∧ RunsBot command argument

/-- The lines that the pattern for the bot finds: an entry point in them ends where a word does. -/
def ManagedLine (line : List Char) : Prop :=
  ∃ front after, line = front ++ after ∧ EndsInEntry front ∧ EndsWord after

/-! ## The pattern as it is understood -/

namespace ManagedLine

open Regex

/-- A blank. -/
def blank : CharTest := .perl .space true

/-- A slash of either kind. -/
def slash : CharTest := .or (.exactly '/') (.or (.exactly '\\') .never)

/-- One or more blanks. -/
def gap : Regex := .repeat (.char blank) 1 none

/-- Any number of characters other than blanks. -/
def solid : Regex := .repeat (.char (.not blank)) 0 none

/-- A folder or nothing. -/
def folder : Regex := optional (inOrder [solid, .char slash])

/-- A place between a word and something else. -/
def boundary : Regex := .look (.wordBoundary true)

/-- The start of the text, a blank or a slash. -/
def nameStart : Regex := anyOf [.look .startText, .char (.or blank slash)]

/-- Any of some texts. -/
def anyText (texts : List (List Char)) : Regex := anyOf (texts.map fun cs => inOrder (letters cs))

/-- An npm script of the bot. -/
def scriptRegex : Regex :=
  inOrder (letters "npm".toList ++
    optional (anyText [".cmd".toList, "-cli.js".toList]) :: gap ::
      (letters "run".toList ++ [gap, anyText scriptNames, boundary]))

/-- The compiled bot. -/
def builtRegex : Regex :=
  inOrder (nameStart :: (letters "node".toList ++
    optional (inOrder (letters ".exe".toList)) :: gap :: folder ::
      (letters "dist".toList ++ .char slash :: (letters "index.js".toList ++ [boundary]))))

/-- The sources of the bot. -/
def sourceRegex : Regex :=
  inOrder (letters "ts-node".toList ++ solid :: gap :: folder ::
    (letters "src".toList ++ .char slash :: (letters "index.ts".toList ++ [boundary])))

/-- An entry point of the bot. -/
def regex : Regex := anyOf [scriptRegex, builtRegex, sourceRegex]

lemma compile_managedPatternText :
    CompiledPattern.compile managedPatternText = .ok ⟨managedPatternText, regex⟩ := by
  decide +kernel

/-! ## What the parts match -/

variable {before word after line : List Char}

lemma isBlank_mem {c : Char} : blank.mem c = Text.isBlank c := rfl

lemma slash_mem {c : Char} : slash.mem c = true ↔ IsSlash c := by
  simp [slash, CharTest.mem, IsSlash]

lemma matches_cons {r : Regex} {rs : List Regex} :
    (inOrder (r :: rs)).Matches before word after ↔
      ∃ u v, word = u ++ v ∧ r.Matches before u (v ++ after) ∧
        (inOrder rs).Matches (before ++ u) v after := Iff.rfl

lemma matches_slash : (char slash).Matches before word after ↔ ∃ c, IsSlash c ∧ word = [c] := by
  simp [Matches, slash_mem]

lemma matches_gap : gap.Matches before word after ↔ IsGap word := by
  rw [gap, matches_repeat_char, Nat.one_le_iff_ne_zero, ne_eq, List.length_eq_zero_iff]
  rfl

lemma matches_solid : solid.Matches before word after ↔ IsSolid word := by
  simp [solid, matches_repeat_char, CharTest.mem, isBlank_mem, IsSolid]

lemma matches_folder : folder.Matches before word after ↔ IsFolder word := by
  simp only [folder, matches_optional, matches_cons, matches_solid, matches_slash, IsFolder]
  constructor
  · rintro (rfl | ⟨d, _, rfl, hd, _, _, rfl, ⟨c, hc, rfl⟩, rfl⟩)
    exacts [Or.inl rfl, Or.inr ⟨d, c, rfl, hd, hc⟩]
  · rintro (rfl | ⟨d, c, rfl, hd, hc⟩)
    exacts [Or.inl rfl, Or.inr ⟨d, [c], rfl, hd, [c], [], rfl, ⟨c, hc, rfl⟩, rfl⟩]

lemma matches_nameStart :
    nameStart.Matches before word after ↔
      before = [] ∧ word = [] ∨ ∃ c, (Text.isBlank c = true ∨ IsSlash c) ∧ word = [c] := by
  simp [nameStart, matches_anyOf, Matches, Look.holds, CharTest.mem, isBlank_mem, slash_mem]

/-- Behind a character of a word, a boundary is where the word ends. -/
lemma matches_boundary {c : Char} (hbefore : before.getLast? = some c)
    (hc : Unicode.isWord c = true) :
    (inOrder [boundary]).Matches before word after ↔ word = [] ∧ EndsWord after := by
  have hlook : (look (.wordBoundary true)).Matches before [] after ↔ EndsWord after := by
    simp only [Matches, Look.holds, hbefore, PerlKind.mem, if_true, hc, EndsWord]
    cases after.head? <;> simp
  constructor
  · rintro ⟨u, v, rfl, hu, hv⟩
    obtain rfl : v = [] := hv
    obtain rfl : u = [] := hu.2
    exact ⟨rfl, hlook.1 hu⟩
  · rintro ⟨rfl, hafter⟩
    exact ⟨[], [], rfl, hlook.2 hafter, rfl⟩

lemma matches_anyText {texts : List (List Char)} :
    (anyText texts).Matches before word after ↔ word ∈ texts := by
  simp [anyText, matches_anyOf, matches_letters]

lemma mem_npmNames {npm : List Char} :
    npm ∈ npmNames ↔ ∃ suffix, npm = "npm".toList ++ suffix ∧
      (suffix = [] ∨ suffix ∈ [".cmd".toList, "-cli.js".toList]) := by
  simp [npmNames, exists_or, and_or_left]

lemma mem_nodeNames {node : List Char} :
    node ∈ nodeNames ↔ ∃ suffix, node = "node".toList ++ suffix ∧
      (suffix = [] ∨ suffix = ".exe".toList) := by
  simp [nodeNames, and_or_left, exists_or]

lemma boundary_of_script {script : List Char} (h : script ∈ scriptNames) :
    (inOrder [boundary]).Matches (before ++ script) word after ↔ word = [] ∧ EndsWord after := by
  simp only [scriptNames, List.mem_cons, List.not_mem_nil, or_false] at h
  rcases h with rfl | rfl
  · exact matches_boundary (c := 't') (by simp) (by decide +kernel)
  · exact matches_boundary (c := 'v') (by simp) (by decide +kernel)

lemma boundary_of_index :
    (inOrder [boundary]).Matches (before ++ "index.js".toList) word after ↔
      word = [] ∧ EndsWord after :=
  matches_boundary (c := 's') (by simp) (by decide +kernel)

lemma boundary_of_sources :
    (inOrder [boundary]).Matches (before ++ "index.ts".toList) word after ↔
      word = [] ∧ EndsWord after :=
  matches_boundary (c := 's') (by simp) (by decide +kernel)

lemma matches_scriptRegex :
    scriptRegex.Matches before word after ↔
      ∃ npm gap gap' script, word = npm ++ gap ++ "run".toList ++ gap' ++ script ∧
        npm ∈ npmNames ∧ IsGap gap ∧ IsGap gap' ∧ script ∈ scriptNames ∧ EndsWord after := by
  simp only [scriptRegex, matches_inOrder_letters, matches_cons, matches_optional, matches_gap,
    matches_anyText]
  constructor
  · rintro ⟨_, rfl, suffix, _, rfl, hsuffix, gap, _, rfl, hgap, _, rfl, gap', _, rfl, hgap',
      script, _, rfl, hscript, hend⟩
    obtain ⟨rfl, hafter⟩ := (boundary_of_script hscript).1 hend
    exact ⟨_, gap, gap', script, by simp, mem_npmNames.2 ⟨suffix, rfl, hsuffix⟩, hgap, hgap',
      hscript, hafter⟩
  · rintro ⟨npm, gap, gap', script, rfl, hnpm, hgap, hgap', hscript, hafter⟩
    obtain ⟨suffix, rfl, hsuffix⟩ := mem_npmNames.1 hnpm
    exact ⟨suffix ++ (gap ++ ("run".toList ++ (gap' ++ (script ++ [])))), by simp, suffix, _, rfl,
      hsuffix, gap, _, rfl, hgap, _, rfl, gap', _, rfl, hgap', script, _, rfl, hscript,
      (boundary_of_script hscript).2 ⟨rfl, hafter⟩⟩

lemma matches_builtRegex :
    builtRegex.Matches before word after ↔
      ∃ start node gap folder slash, word = start ++ node ++ gap ++ folder ++ "dist".toList ++
          [slash] ++ "index.js".toList ∧
        nameStart.Matches before start (node ++ gap ++ folder ++ "dist".toList ++ [slash] ++
          "index.js".toList ++ after) ∧
        node ∈ nodeNames ∧ IsGap gap ∧ IsFolder folder ∧ IsSlash slash ∧ EndsWord after := by
  simp only [builtRegex, matches_inOrder_letters, matches_cons, matches_optional, matches_gap,
    matches_letters, matches_folder, matches_slash]
  constructor
  · rintro ⟨start, _, rfl, hstart, _, rfl, suffix, _, rfl, hsuffix, gap, _, rfl, hgap, folder, _,
      rfl, hfolder, _, rfl, _, _, rfl, ⟨slash, hslash, rfl⟩, _, rfl, hend⟩
    obtain ⟨rfl, hafter⟩ := boundary_of_index.1 hend
    exact ⟨start, _, gap, folder, slash, by simp, by simpa using hstart,
      mem_nodeNames.2 ⟨suffix, rfl, hsuffix⟩, hgap, hfolder, hslash, hafter⟩
  · rintro ⟨start, node, gap, folder, slash, rfl, hstart, hnode, hgap, hfolder, hslash, hafter⟩
    obtain ⟨suffix, rfl, hsuffix⟩ := mem_nodeNames.1 hnode
    exact ⟨start, "node".toList ++ (suffix ++ (gap ++ (folder ++ ("dist".toList ++ ([slash] ++
        ("index.js".toList ++ [])))))), by simp, by simpa using hstart, _, rfl, suffix, _, rfl,
      hsuffix, gap, _, rfl, hgap, folder, _, rfl, hfolder, _, rfl, _, _, rfl, ⟨slash, hslash, rfl⟩,
      _, rfl, boundary_of_index.2 ⟨rfl, hafter⟩⟩

lemma matches_sourceRegex :
    sourceRegex.Matches before word after ↔
      ∃ variant gap folder slash, word = "ts-node".toList ++ variant ++ gap ++ folder ++
          "src".toList ++ [slash] ++ "index.ts".toList ∧
        IsSolid variant ∧ IsGap gap ∧ IsFolder folder ∧ IsSlash slash ∧ EndsWord after := by
  simp only [sourceRegex, matches_inOrder_letters, matches_cons, matches_solid, matches_gap,
    matches_folder, matches_slash]
  constructor
  · rintro ⟨_, rfl, variant, _, rfl, hvariant, gap, _, rfl, hgap, folder, _, rfl, hfolder, _, rfl,
      _, _, rfl, ⟨slash, hslash, rfl⟩, _, rfl, hend⟩
    obtain ⟨rfl, hafter⟩ := boundary_of_sources.1 hend
    exact ⟨variant, gap, folder, slash, by simp, hvariant, hgap, hfolder, hslash, hafter⟩
  · rintro ⟨variant, gap, folder, slash, rfl, hvariant, hgap, hfolder, hslash, hafter⟩
    exact ⟨variant ++ (gap ++ (folder ++ ("src".toList ++ ([slash] ++ ("index.ts".toList ++ []))))),
      by simp, variant, _, rfl, hvariant, gap, _, rfl, hgap, folder, _, rfl, hfolder, _, rfl, _, _,
      rfl, ⟨slash, hslash, rfl⟩, _, rfl, boundary_of_sources.2 ⟨rfl, hafter⟩⟩

/-- A name begins where the text begins or behind a blank or a slash. -/
lemma startsName_of_nameStart (h : nameStart.Matches before word after) :
    StartsName (before ++ word) := by
  rcases matches_nameStart.1 h with ⟨rfl, rfl⟩ | ⟨c, hc, rfl⟩
  · simp [StartsName]
  · simpa [StartsName] using hc

lemma exists_nameStart (h : StartsName before) (rest : List Char) :
    ∃ front start, before = front ++ start ∧ nameStart.Matches front start rest := by
  rcases List.eq_nil_or_concat' before with rfl | ⟨front, c, rfl⟩
  · exact ⟨[], [], rfl, matches_nameStart.2 (Or.inl ⟨rfl, rfl⟩)⟩
  · exact ⟨front, [c], rfl, matches_nameStart.2 (Or.inr ⟨c, by simpa [StartsName] using h, rfl⟩)⟩

lemma matches_regex :
    regex.Matches before word after ↔ scriptRegex.Matches before word after ∨
      builtRegex.Matches before word after ∨ sourceRegex.Matches before word after := by
  simp [regex, matches_anyOf]

lemma endsInEntry_of_matches (h : regex.Matches before word after) :
    EndsInEntry (before ++ word) ∧ EndsWord after := by
  rcases matches_regex.1 h with h | h | h
  · obtain ⟨npm, gap, gap', script, rfl, hnpm, hgap, hgap', hscript, hafter⟩ :=
      matches_scriptRegex.1 h
    exact ⟨⟨_, gap', script, by simp, hgap', .script before npm gap rfl hnpm hgap hscript⟩, hafter⟩
  · obtain ⟨start, node, gap, folder, slash, rfl, hstart, hnode, hgap, hfolder, hslash, hafter⟩ :=
      matches_builtRegex.1 h
    exact ⟨⟨_, gap, _, by simp, hgap, .built (before ++ start) node folder slash rfl
      (startsName_of_nameStart hstart) hnode rfl hfolder hslash⟩, hafter⟩
  · obtain ⟨variant, gap, folder, slash, rfl, hvariant, hgap, hfolder, hslash, hafter⟩ :=
      matches_sourceRegex.1 h
    exact ⟨⟨_, gap, _, by simp, hgap, .source before variant folder slash rfl hvariant rfl hfolder
      hslash⟩, hafter⟩

lemma exists_matches {front : List Char} (h : EndsInEntry front) (hafter : EndsWord after) :
    ∃ before word, front = before ++ word ∧ regex.Matches before word after := by
  simp only [matches_regex]
  obtain ⟨command, gap, argument, rfl, hgap, hruns⟩ := h
  cases hruns with
  | script before npm gap₀ hcommand hnpm hgap₀ hargument =>
    exact ⟨before, _, by simp [hcommand], Or.inl (matches_scriptRegex.2
      ⟨npm, gap₀, gap, argument, rfl, hnpm, hgap₀, hgap, hargument, hafter⟩)⟩
  | built before node folder slash hcommand hbefore hnode hargument hfolder hslash =>
    obtain ⟨front, start, rfl, hstart⟩ := exists_nameStart hbefore _
    exact ⟨front, _, by simp [hcommand, hargument], Or.inr (Or.inl (matches_builtRegex.2
      ⟨start, node, gap, folder, slash, rfl, hstart, hnode, hgap, hfolder, hslash, hafter⟩))⟩
  | source before variant folder slash hcommand hvariant hargument hfolder hslash =>
    exact ⟨before, _, by simp [hcommand, hargument], Or.inr (Or.inr (matches_sourceRegex.2
      ⟨variant, gap, folder, slash, rfl, hvariant, hgap, hfolder, hslash, hafter⟩))⟩

end ManagedLine

/-- The pattern for the bot finds the managed lines and no others. -/
theorem isMatch_managedPattern (s : String) :
    (CompiledPattern.ofValid managedPatternText).isMatch s = true ↔ ManagedLine s.toList := by
  rw [CompiledPattern.ofValid, ManagedLine.compile_managedPatternText, CompiledPattern.isMatch,
    Regex.isMatch_iff]
  constructor
  · rintro ⟨before, word, after, hline, h⟩
    obtain ⟨hfront, hafter⟩ := ManagedLine.endsInEntry_of_matches h
    exact ⟨before ++ word, after, by simpa using hline, hfront, hafter⟩
  · rintro ⟨front, after, hline, hfront, hafter⟩
    obtain ⟨before, word, rfl, h⟩ := ManagedLine.exists_matches hfront hafter
    exact ⟨before, word, after, by simpa using hline, h⟩

end BotKeeper
