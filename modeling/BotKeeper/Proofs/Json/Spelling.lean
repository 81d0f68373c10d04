/-
# Spelling values and reading them back

A value may be spelled in several ways, with more or fewer blanks between its parts; the writer picks
one of them.  `ReadsBack r v a` says that a reader yields `a` however `v` is spelled.  A record is read
back if its members are, one after the other (`Fills`).
-/
import BotKeeper.Proofs.Json.Reads

namespace BotKeeper.Json

/-! ## Spelling -/

/-- A string in quotes. -/
def quote (s : String) : List Char := '"' :: (s.toList.flatMap escapeChar ++ ['"'])

/-- What stands in front of an item: a comma, unless it is the first one. -/
def comma (first : Bool) : List Char := if first then [] else [',']

mutual

/-- A value is spelled by a text. -/
inductive Spells : Value → List Char → Prop where
  | null : Spells .null "null".toList
  | boolean (b : Bool) : Spells (.boolean b) (if b then "true" else "false").toList
  | number (n : Nat) : Spells (.number n) (Nat.toDigits 10 n)
  | literal (text : String) : Spells (.literal text) text.toList
  | string (s : String) : Spells (.string s) (quote s)
  | list {items : List Value} {cs : List Char} (h : SpellsItems true items cs) :
      Spells (.list items) ('[' :: cs)
  | object {ms : List (String × Value)} {cs : List Char} (h : SpellsMembers true ms cs) :
      Spells (.object ms) ('\x7b' :: cs)

/-- The items that are left of a list are spelled by a text, with the bracket at the end. -/
inductive SpellsItems : (first : Bool) → List Value → List Char → Prop where
  | nil {first : Bool} {gap : List Char} (hgap : Blanks gap) : SpellsItems first [] (gap ++ [']'])
  | cons {first : Bool} {gap cs rest : List Char} {v : Value} {items : List Value}
      (hgap : Blanks gap) (hv : Spells v cs) (hrest : SpellsItems false items rest) :
      SpellsItems first (v :: items) (comma first ++ (gap ++ (cs ++ rest)))

/-- The members that are left of an object are spelled by a text, with the brace at the end. -/
inductive SpellsMembers : (first : Bool) → List (String × Value) → List Char → Prop where
  | nil {first : Bool} {gap : List Char} (hgap : Blanks gap) :
      SpellsMembers first [] (gap ++ ['\x7d'])
  | cons {first : Bool} {gap inner cs rest : List Char} {name : String} {v : Value}
      {ms : List (String × Value)} (hgap : Blanks gap) (hinner : Blanks inner) (hv : Spells v cs)
      (hrest : SpellsMembers false ms rest) :
      SpellsMembers first ((name, v) :: ms)
        (comma first ++ (gap ++ (quote name ++ ':' :: (inner ++ (cs ++ rest)))))

end

/-! ## The writer spells -/

lemma toList_writeString (s : String) : (writeString s).toList = quote s := by
  simp [writeString, quote]

lemma blanks_indentation (level : Nat) : Blanks (indentation level).toList := by
  intro x hx
  have hx : x = '\n' ∨ x = ' ' := by
    simp [indentation] at hx
    tauto
  rcases hx with rfl | rfl <;> rfl

lemma toList_intercalate (sep first : String) (rest : List String) :
    (String.intercalate sep (first :: rest)).toList =
      first.toList ++ rest.flatMap fun text => sep.toList ++ text.toList := by
  induction rest generalizing first with
  | nil => simp
  | cons second rest ih =>
    rw [String.intercalate_cons_cons, String.toList_append, String.toList_append, ih]
    simp

/-- Further items, each behind a comma on a line of its own. -/
def furtherLines (level : Nat) (texts : List String) : List Char :=
  texts.flatMap fun text => ',' :: ((indentation (level + 1)).toList ++ text.toList)

lemma furtherLines_cons (level : Nat) (text : String) (texts : List String) :
    furtherLines level (text :: texts) =
      comma false ++ ((indentation (level + 1)).toList ++ (text.toList ++ furtherLines level texts)) := by
  simp [furtherLines, comma]

lemma toList_bracketed (opener closer : String) (level : Nat) (first : String)
    (rest : List String) :
    (bracketed opener closer level (first :: rest)).toList =
      opener.toList ++ ((indentation (level + 1)).toList ++ (first.toList ++
        (furtherLines level rest ++ ((indentation level).toList ++ closer.toList)))) := by
  have hcomma : ("," ++ indentation (level + 1)).toList = ',' :: (indentation (level + 1)).toList := by
    simp
  rw [bracketed, if_neg (by simp)]
  simp only [String.toList_append, toList_intercalate, hcomma, List.append_assoc, List.cons_append,
    furtherLines]

/-- A member on a line: its name, a colon and a blank, and its value. -/
lemma toList_member (name : String) (text : String) (tail : List Char) :
    (writeString name ++ ": " ++ text).toList ++ tail =
      quote name ++ ':' :: ([' '] ++ (text.toList ++ tail)) := by
  simp [toList_writeString]

lemma blanks_space : Blanks [' '] := by simp [Blanks, Reader.isSpace]

mutual

lemma prettyAt_spells (level : Nat) : (v : Value) → Spells v (v.prettyAt level).toList
  | .null => .null
  | .boolean b => .boolean b
  | .number n => by
    have h : (Value.prettyAt level (.number n)).toList = Nat.toDigits 10 n := Nat.toList_repr
    rw [h]
    exact .number n
  | .literal text => .literal text
  | .string s => by
    have h : (Value.prettyAt level (.string s)).toList = quote s := toList_writeString s
    rw [h]
    exact .string s
  | .list [] => by
    have h : (Value.prettyAt level (.list [])).toList = '[' :: ([] ++ [']']) := by
      simp [Value.prettyAt, prettyItems, bracketed]
    rw [h]
    exact .list (.nil blanks_nil)
  | .list (item :: items) => by
    rw [Value.prettyAt, prettyItems, toList_bracketed]
    exact .list (.cons (blanks_indentation _) (prettyAt_spells (level + 1) item)
      (prettyItems_spells level items))
  | .object [] => by
    have h : (Value.prettyAt level (.object [])).toList = '\x7b' :: ([] ++ ['\x7d']) := by
      simp [Value.prettyAt, prettyMembers, bracketed]
    rw [h]
    exact .object (.nil blanks_nil)
  | .object ((name, v) :: ms) => by
    rw [Value.prettyAt, prettyMembers, toList_bracketed, toList_member]
    exact .object (.cons (blanks_indentation _) blanks_space (prettyAt_spells (level + 1) v)
      (prettyMembers_spells level ms))

lemma prettyItems_spells (level : Nat) : (items : List Value) →
    SpellsItems false items
      (furtherLines level (prettyItems (level + 1) items) ++ ((indentation level).toList ++ [']']))
  | [] => .nil (blanks_indentation level)
  | item :: items => by
    rw [prettyItems, furtherLines_cons]
    simp only [List.append_assoc]
    exact .cons (blanks_indentation _) (prettyAt_spells (level + 1) item)
      (prettyItems_spells level items)

lemma prettyMembers_spells (level : Nat) : (ms : List (String × Value)) →
    SpellsMembers false ms
      (furtherLines level (prettyMembers (level + 1) ms) ++
        ((indentation level).toList ++ ['\x7d']))
  | [] => .nil (blanks_indentation level)
  | (name, v) :: ms => by
    rw [prettyMembers, furtherLines_cons]
    simp only [List.append_assoc, List.cons_append, toList_member]
    exact .cons (blanks_indentation _) blanks_space (prettyAt_spells (level + 1) v)
      (prettyMembers_spells level ms)

end

/-- Further parts, each directly behind a comma. -/
def furtherParts (texts : List String) : List Char := texts.flatMap fun text => ',' :: text.toList

lemma furtherParts_cons (text : String) (texts : List String) :
    furtherParts (text :: texts) = comma false ++ (text.toList ++ furtherParts texts) := by
  simp [furtherParts, comma]

lemma toList_enclosed (opener closer first : String) (rest : List String) :
    (opener ++ String.intercalate "," (first :: rest) ++ closer).toList =
      opener.toList ++ (first.toList ++ (furtherParts rest ++ closer.toList)) := by
  have hcomma : (",":String).toList = [','] := rfl
  simp only [String.toList_append, toList_intercalate, hcomma, List.append_assoc, List.cons_append,
    List.nil_append, furtherParts]

/-- A member without blanks: its name, a colon and its value. -/
lemma toList_compactMember (name : String) (text : String) (tail : List Char) :
    (writeString name ++ ":" ++ text).toList ++ tail =
      quote name ++ ':' :: (text.toList ++ tail) := by
  simp [toList_writeString]

lemma SpellsItems.tight {first : Bool} {cs rest : List Char} {v : Value} {items : List Value}
    (hv : Spells v cs) (hrest : SpellsItems false items rest) :
    SpellsItems first (v :: items) (comma first ++ (cs ++ rest)) := .cons blanks_nil hv hrest

lemma SpellsMembers.tight {first : Bool} {cs rest : List Char} {name : String} {v : Value}
    {ms : List (String × Value)} (hv : Spells v cs) (hrest : SpellsMembers false ms rest) :
    SpellsMembers first ((name, v) :: ms) (comma first ++ (quote name ++ ':' :: (cs ++ rest))) :=
  .cons blanks_nil blanks_nil hv hrest

mutual

lemma compact_spells : (v : Value) → Spells v v.compact.toList
  | .null => .null
  | .boolean b => .boolean b
  | .number n => by
    have h : (Value.compact (.number n)).toList = Nat.toDigits 10 n := Nat.toList_repr
    rw [h]
    exact .number n
  | .literal text => .literal text
  | .string s => by
    have h : (Value.compact (.string s)).toList = quote s := toList_writeString s
    rw [h]
    exact .string s
  | .list [] => by
    have h : (Value.compact (.list [])).toList = '[' :: ([] ++ [']']) := by
      simp [Value.compact, compactItems]
    rw [h]
    exact .list (.nil blanks_nil)
  | .list (item :: items) => by
    rw [Value.compact, compactItems, toList_enclosed]
    exact .list (.tight (compact_spells item) (compactItems_spells items))
  | .object [] => by
    have h : (Value.compact (.object [])).toList = '\x7b' :: ([] ++ ['\x7d']) := by
      simp [Value.compact, compactMembers]
    rw [h]
    exact .object (.nil blanks_nil)
  | .object ((name, v) :: ms) => by
    rw [Value.compact, compactMembers, toList_enclosed, toList_compactMember]
    exact .object (.tight (compact_spells v) (compactMembers_spells ms))

lemma compactItems_spells : (items : List Value) →
    SpellsItems false items (furtherParts (compactItems items) ++ [']'])
  | [] => .nil blanks_nil
  | item :: items => by
    rw [compactItems, furtherParts_cons]
    simp only [List.append_assoc]
    exact .tight (compact_spells item) (compactItems_spells items)

lemma compactMembers_spells : (ms : List (String × Value)) →
    SpellsMembers false ms (furtherParts (compactMembers ms) ++ ['\x7d'])
  | [] => .nil blanks_nil
  | (name, v) :: ms => by
    rw [compactMembers, furtherParts_cons]
    simp only [List.append_assoc, List.cons_append, toList_compactMember]
    exact .tight (compact_spells v) (compactMembers_spells ms)

end

/-! ## Reading back -/

namespace Reader

variable {α σ : Type}

/-- However the value is spelled, the reader yields `a`. -/
def ReadsBack (r : Reader α) (v : Value) (a : α) : Prop :=
  ∀ cs, Spells v cs → ∀ gap tail, Blanks gap → EndsNumber tail → Reads r (gap ++ (cs ++ tail)) a tail

namespace ReadsBack

lemma natural {expected : String} {bound n : Nat} (hbound : bound ≤ UInt64.size) (hn : n < bound) :
    ReadsBack (natural expected bound) (.number n) n := by
  intro cs hspell gap tail hgap htail
  cases hspell
  exact .natural hbound hn hgap htail

lemma uint32 (n : UInt32) : ReadsBack uint32 (.number n.toNat) n := by
  intro cs hspell gap tail hgap htail
  refine .bind (natural (by decide) n.toNat_lt cs hspell gap tail hgap htail) ?_
  rw [UInt32.ofNat_toNat]
  exact .pure _ _

lemma uint64 (n : UInt64) : ReadsBack uint64 (.number n.toNat) n := by
  intro cs hspell gap tail hgap htail
  refine .bind (natural (Nat.le_refl _) n.toNat_lt cs hspell gap tail hgap htail) ?_
  rw [UInt64.ofNat_toNat]
  exact .pure _ _

lemma text (expected s : String) : ReadsBack (text expected) (.string s) s := by
  intro cs hspell gap tail hgap htail
  cases hspell
  have hstring := Reads.string s tail
  simp only [quote, List.cons_append, List.append_assoc, List.nil_append]
  exact .peekToken hgap rfl (.skip hstring)

end ReadsBack

/-! ## Optional values -/

lemma reads_ident (word rest : List Char) : Reads (ident word) (word ++ rest) () rest := by
  induction word with
  | nil => exact .pure _ _
  | cons x word ih =>
    refine .peek ?_
    simp only [List.cons_append, List.head?_cons, beq_self_eq_true, if_true]
    exact .skip ih

end Reader

/-- A value whose text cannot be taken for that of `null`. -/
def Value.notNull : Value → Bool
  | .null => false
  | .literal _ => false
  | _ => true

/-- How the text of a value that is not `null` begins. -/
lemma Spells.head {v : Value} {cs : List Char} (h : Spells v cs) (hv : v.notNull = true) :
    ∃ x rest, cs = x :: rest ∧ Reader.isSpace x = false ∧ x ≠ 'n' ∧ x ≠ ']' := by
  cases h with
  | null => cases hv
  | literal => cases hv
  | boolean b => cases b <;> exact ⟨_, _, rfl, by decide, by decide, by decide⟩
  | number n =>
    cases hds : Nat.toDigits 10 n with
    | nil => exact absurd hds Nat.toDigits_ne_nil
    | cons x ds =>
      have hdigit := Reader.Reads.isDigit_of_toDigits hds
      refine ⟨x, ds, rfl, Reader.Reads.isSpace_of_isDigit hdigit, ?_, ?_⟩
      · rintro rfl
        cases hdigit
      · rintro rfl
        cases hdigit
  | string s => exact ⟨_, _, rfl, by decide, by decide, by decide⟩
  | list => exact ⟨_, _, rfl, by decide, by decide, by decide⟩
  | object => exact ⟨_, _, rfl, by decide, by decide, by decide⟩

namespace Reader

variable {α σ : Type}

namespace ReadsBack

lemma null (r : Reader α) : ReadsBack (optional r) .null none := by
  intro cs hspell gap tail hgap htail
  cases hspell
  exact .peekToken hgap rfl (.skip ((reads_ident ['u', 'l', 'l'] tail).bind (.pure _ _)))

lemma some {r : Reader α} {v : Value} {a : α} (h : ReadsBack r v a) (hv : v.notNull = true) :
    ReadsBack (optional r) v (some a) := by
  intro cs hspell gap tail hgap htail
  have hvalue := h cs hspell [] tail blanks_nil htail
  obtain ⟨x, rest, rfl, hspace, hx, -⟩ := hspell.head hv
  refine .peekToken hgap hspace ?_
  split
  · next heq => exact absurd (Option.some.inj heq) hx
  · exact .bind hvalue (.pure _ _)

end ReadsBack

/-! ## Records -/

/-- The members of an object are read one after the other by the keys of a record, none of them
twice. -/
inductive Fills (keys : List (Key σ)) : (seen : List String) → List (String × Value) → σ → σ → Prop where
  | nil {seen : List String} {s : σ} : Fills keys seen [] s s
  | cons {seen : List String} {name : String} {v : Value} {ms : List (String × Value)} {s s₁ s' : σ}
      {key : Key σ} (hfind : keys.find? (·.name == name) = some key)
      (hseen : seen.contains name = false) (hread : ReadsBack (key.read s) v s₁)
      (hrest : Fills keys (name :: seen) ms s₁ s') : Fills keys seen ((name, v) :: ms) s s'

lemma ReadsBack.of_key {name : String} {r : Reader α} {store : σ → α → σ} {v : Value} {a : α}
    (hr : ReadsBack r v a) (s : σ) : ReadsBack ((Key.of name r store).read s) v (store s a) :=
  fun cs hspell gap tail hgap htail => .bind (hr cs hspell gap tail hgap htail) (.pure _ _)

lemma reads_nextKey {first : Bool} {gap rest : List Char} (hgap : Blanks gap) (name : String) :
    Reads (nextKey first) (comma first ++ (gap ++ (quote name ++ rest))) (some name) rest := by
  have hstring := Reads.string name rest
  have hname : Reads (do return some (← string)) (name.toList.flatMap escapeChar ++ '"' :: rest)
      (some name) rest := .bind hstring (.pure _ _)
  simp only [quote, List.cons_append, List.append_assoc, List.nil_append]
  cases first with
  | true => exact .peekToken hgap rfl (.skip hname)
  | false =>
    refine .peekToken_now rfl (.skip ?_)
    exact .peekToken hgap rfl (.skip hname)

lemma reads_nextKey_end {first : Bool} {gap rest : List Char} (hgap : Blanks gap) :
    Reads (nextKey first) (gap ++ '\x7d' :: rest) none ('\x7d' :: rest) :=
  .peekToken hgap rfl (.pure _ _)

lemma reads_colon (rest : List Char) : Reads colon (':' :: rest) () rest :=
  .peekToken_now rfl (.skip_last _ _)

end Reader

lemma SpellsMembers.length_le {first : Bool} {ms : List (String × Value)} {cs : List Char}
    (h : SpellsMembers first ms cs) : ms.length ≤ cs.length := by
  induction ms generalizing first cs with
  | nil => exact Nat.zero_le _
  | cons m ms ih =>
    cases h with
    | cons hgap hinner hv hrest =>
      have hle := ih hrest
      simp only [List.length_append, List.length_cons]
      omega

/-- Each item but the first comes with a comma, and the bracket at the end makes up for that one. -/
lemma SpellsItems.length_le {first : Bool} {items : List Value} {cs : List Char}
    (h : SpellsItems first items cs) :
    items.length + (if first then 0 else 1) ≤ cs.length := by
  induction items generalizing first cs with
  | nil =>
    obtain ⟨_⟩ := h
    cases first <;> simp
  | cons v items ih =>
    cases h with
    | cons hgap hv hrest =>
      have hle := ih hrest
      cases first <;> simp [comma] at hle ⊢ <;> omega

/-- Blanks and the character that closes a list or an object end a number. -/
lemma endsNumber_gap {gap : List Char} (hgap : Blanks gap) {x : Char} (hx : x = ']' ∨ x = '\x7d')
    (tail : List Char) : EndsNumber (gap ++ [x] ++ tail) := by
  have hblank {y : Char} (hy : Reader.isSpace y = true) :
      y.isDigit = false ∧ y ≠ '.' ∧ y ≠ 'e' ∧ y ≠ 'E' := by
    simp only [Reader.isSpace, Bool.or_eq_true, beq_iff_eq] at hy
    rcases hy with ((rfl | rfl) | rfl) | rfl <;> decide
  intro y hy
  cases gap with
  | nil =>
    obtain rfl := Option.some.inj hy
    rcases hx with rfl | rfl <;> decide
  | cons z gap =>
    obtain rfl := Option.some.inj hy
    exact hblank (hgap _ List.mem_cons_self)

lemma endsNumber_comma (rest : List Char) : EndsNumber (comma false ++ rest) := by
  intro y hy
  obtain rfl := Option.some.inj hy
  decide

/-- Whatever follows a member ends the number it may be. -/
lemma SpellsMembers.endsNumber {ms : List (String × Value)} {cs : List Char}
    (h : SpellsMembers false ms cs) (tail : List Char) : EndsNumber (cs ++ tail) := by
  cases h with
  | nil hgap => exact endsNumber_gap hgap (Or.inr rfl) tail
  | cons =>
    rw [List.append_assoc]
    exact endsNumber_comma _

/-- Whatever follows an item ends the number it may be. -/
lemma SpellsItems.endsNumber {items : List Value} {cs : List Char}
    (h : SpellsItems false items cs) (tail : List Char) : EndsNumber (cs ++ tail) := by
  cases h with
  | nil hgap => exact endsNumber_gap hgap (Or.inl rfl) tail
  | cons =>
    rw [List.append_assoc]
    exact endsNumber_comma _

namespace Reader

variable {α σ : Type}

/-- The induction is on the members as they fill the record. -/
lemma Fills.reads {keys : List (Key σ)} {seen : List String} {ms : List (String × Value)} {s s' : σ}
    (hfills : Fills keys seen ms s s') {first : Bool} {cs : List Char}
    (hspell : SpellsMembers first ms cs) {fuel : Nat} (hfuel : ms.length < fuel)
    (tail : List Char) :
    Reads (members keys fuel first seen s) (cs ++ tail) s' ('\x7d' :: tail) := by
  induction hfills generalizing first cs fuel with
  | nil =>
    obtain ⟨fuel, rfl⟩ := Nat.exists_eq_add_one.2 hfuel
    obtain ⟨hgap⟩ := hspell
    rw [List.append_assoc]
    exact .bind (reads_nextKey_end hgap) (.pure _ _)
  | @cons seen name v ms s s₁ s' key hfind hseen hread hrest ih =>
    obtain ⟨fuel, rfl⟩ := Nat.exists_eq_add_one.2 (Nat.zero_lt_of_lt hfuel)
    cases hspell with
    | @cons _ gap inner cs rest _ _ _ hgap hinner hv hms =>
      have hvalue := hread cs hv inner _ hinner (hms.endsNumber tail)
      have hothers := ih hms (Nat.lt_of_succ_lt_succ hfuel)
      simp only [List.append_assoc, List.cons_append]
      refine .bind (reads_nextKey hgap name) ?_
      simp only [hfind, hseen]
      exact .bind (reads_colon _) (.bind hvalue hothers)

/-- A record is read back from an object whose members fill it. -/
lemma ReadsBack.record {α : Type} {shape : Shape σ α} {ms : List (String × Value)} {s : σ} {a : α}
    (hfills : Fills shape.keys [] ms shape.start s) (hfinish : shape.finish s = .ok a) :
    ReadsBack (record shape) (.object ms) a := by
  intro cs hspell gap tail hgap htail
  cases hspell with
  | @object _ cs hms =>
    have hlength : ms.length < (cs ++ tail).length + 1 := by
      have hle := hms.length_le
      rw [List.length_append]
      omega
    have hend : Reads endObject ('\x7d' :: tail) () tail :=
      .peekToken_now rfl (.skip_last _ _)
    have hmembers := hfills.reads hms hlength tail
    refine .peekToken hgap rfl (.located (.skip (.closing ?_ hend)))
    refine .remaining (hmembers.bind ?_)
    simp only [hfinish]
    exact .pure _ _

/-! ## Lists -/

lemma reads_hasElement_end {first : Bool} {gap rest : List Char} (hgap : Blanks gap) :
    Reads (hasElement first) (gap ++ ']' :: rest) false (']' :: rest) :=
  .peekToken hgap rfl (.pure _ _)

/-- In front of an item, and of the comma before it. -/
lemma reads_hasElement {first : Bool} {gap rest : List Char} (hgap : Blanks gap) {x : Char}
    (hspace : isSpace x = false) (hx : x ≠ ']') :
    Reads (hasElement first) (comma first ++ (gap ++ x :: rest)) true (x :: rest) := by
  cases first with
  | true =>
    refine .peekToken hgap hspace ?_
    split
    · next heq => cases heq
    · next heq => exact absurd (Option.some.inj heq) hx
    · exact .pure _ _
  | false =>
    refine .peekToken_now rfl (.skip (.peekToken hgap hspace ?_))
    split
    · next heq => exact absurd (Option.some.inj heq) hx
    · exact .pure _ _
    · next heq => cases heq

/-- The induction is on the items that are left. -/
lemma reads_elements {α : Type} {r : Reader α} {spell : α → Value}
    (hr : ∀ a, ReadsBack r (spell a) a) (hnull : ∀ a, (spell a).notNull = true) (items : List α)
    {first : Bool} {cs : List Char} (hspell : SpellsItems first (items.map spell) cs) {fuel : Nat}
    (hfuel : items.length < fuel) (done : List α) (tail : List Char) :
    Reads (elements r fuel first done) (cs ++ tail) (done.reverse ++ items) (']' :: tail) := by
  induction items generalizing first cs fuel done with
  | nil =>
    obtain ⟨fuel, rfl⟩ := Nat.exists_eq_add_one.2 hfuel
    obtain ⟨hgap⟩ := hspell
    rw [List.append_assoc, List.append_nil]
    exact .bind (reads_hasElement_end hgap) (.pure _ _)
  | cons a items ih =>
    obtain ⟨fuel, rfl⟩ := Nat.exists_eq_add_one.2 (Nat.zero_lt_of_lt hfuel)
    cases hspell with
    | @cons _ gap cs rest _ _ hgap hv hitems =>
      have hvalue := hr a cs hv [] _ blanks_nil (hitems.endsNumber tail)
      have hothers := ih hitems (Nat.lt_of_succ_lt_succ hfuel) (a :: done)
      rw [List.reverse_cons, List.append_assoc] at hothers
      obtain ⟨x, cs, rfl, hspace, -, hx⟩ := hv.head (hnull a)
      simp only [List.append_assoc, List.cons_append]
      exact .bind (reads_hasElement hgap hspace hx) (.bind hvalue hothers)

/-- A list is read back from the texts of its items, none of which is `null`. -/
lemma ReadsBack.list {α : Type} {r : Reader α} {spell : α → Value}
    (hr : ∀ a, ReadsBack r (spell a) a) (hnull : ∀ a, (spell a).notNull = true) (items : List α) :
    ReadsBack (list r) (.list (items.map spell)) items := by
  intro cs hspell gap tail hgap htail
  cases hspell with
  | @list _ cs hitems =>
    have hlength : items.length < (cs ++ tail).length + 1 := by
      have hle := hitems.length_le
      simp only [List.length_map, if_true, Nat.add_zero] at hle
      rw [List.length_append]
      omega
    have hend : Reads endList (']' :: tail) () tail := .peekToken_now rfl (.skip_last _ _)
    have helements := reads_elements hr hnull items hitems hlength [] tail
    exact .peekToken hgap rfl (.located (.skip (.closing (.remaining helements) hend)))

/-- A whole text is read back if only blanks follow. -/
lemma run_of_reads {α : Type} {r : Reader α} {text : String} {a : α} {tail : List Char}
    (hr : Reads r text.toList a tail) (htail : Blanks tail) : run r text = .ok a := by
  rw [run]
  split
  · next b c h =>
    refine congrArg Except.ok (Reads.eq_of_ok (?_ : Reads _ _ _ []) h)
    refine .bind hr (.peekToken_end htail ?_)
    exact .pure _ _
  · next f c h =>
    refine absurd h (Reads.ne_error (?_ : Reads _ _ a []) _ f c)
    refine .bind hr (.peekToken_end htail ?_)
    exact .pure _ _

/-- A value is read back from any text that spells it. -/
theorem ReadsBack.run {α : Type} {r : Reader α} {v : Value} {a : α} (h : ReadsBack r v a)
    {text : String} (htext : Spells v text.toList) : run r text = .ok a := by
  have hnil : EndsNumber [] := by
    intro x hx
    cases hx
  have hr := h _ htext [] [] blanks_nil hnil
  rw [List.nil_append, List.append_nil] at hr
  exact run_of_reads hr blanks_nil

/-- A value is read back from what the writer wrote on several lines. -/
theorem ReadsBack.run_pretty {α : Type} {r : Reader α} {v : Value} {a : α} (h : ReadsBack r v a) :
    Reader.run r v.pretty = .ok a := h.run (prettyAt_spells 0 v)

/-- A value is read back from what the writer wrote without blanks. -/
theorem ReadsBack.run_compact {α : Type} {r : Reader α} {v : Value} {a : α} (h : ReadsBack r v a) :
    Reader.run r v.compact = .ok a := h.run (compact_spells v)

end Reader

end BotKeeper.Json
