import StyledText.Proofs.Stylesheet.Written

/-!
# Selectors from their texts

The text of a selector puts its parts and the signs of qualifiers behind one another with spaces
between them, and in a part each name behind a mark of its own.  As long as no name has one of these
signs in it, **the selector can be read back from the text**, all but the qualifier of the first
part, which is not shown.

Where a part has no type, the text has a star or nothing, as something else follows or not.  The
star is no name and names are not empty, so either is read as no type.

* `IsName`, `Selector.Named` — names that can be told from signs.
* `SelectorPart.ofText`, `Selector.ofText` — reading a text.
* `SelectorPart.ofText_text`, `Selector.ofText_text` — what was written is read back.
* `Selector.text_eq_text_iff` — selectors with the same text.
-/

namespace StyledText.Stylesheet

/-! ### Names -/

/-- The characters that are signs in the text of a selector. -/
def selectorSigns : List Char := [' ', '>', '/', '#', '.', ':', '^', '*']

/-- A name has characters, and none of them is a sign. -/
def IsName (name : String) : Prop := name ≠ "" ∧ ∀ c ∈ name.toList, c ∉ selectorSigns

-- the quantifier goes over the characters of the name, not over all characters
instance (name : String) : Decidable (IsName name) :=
  haveI : Decidable (∀ c ∈ name.toList, c ∉ selectorSigns) := List.decidableBAll _ _
  inferInstanceAs (Decidable (_ ∧ _))

/-- All names in a part. -/
def SelectorPart.names (p : SelectorPart) : List String :=
  p.element.toList ++ p.id.toList ++ p.classes ++ p.pseudoClass.toList

/-- All names in the part can be told from signs. -/
def SelectorPart.Named (p : SelectorPart) : Prop := ∀ name ∈ p.names, IsName name

instance (p : SelectorPart) : Decidable p.Named :=
  inferInstanceAs (Decidable (∀ name ∈ p.names, IsName name))

/-- All names in the selector can be told from signs. -/
def Selector.Named (s : Selector) : Prop := ∀ p ∈ s.parts, p.Named

instance (s : Selector) : Decidable s.Named := inferInstanceAs (Decidable (∀ p ∈ s.parts, p.Named))

/-! ### Marks -/

/-- Whether a character marks the name behind it: as an identifier, a class or a state. -/
def isMark (c : Char) : Bool := c == '#' || c == '.' || c == ':'

/-- Cuts before each mark: what stands before the first, and each mark with what stands behind. -/
def pieces : List Char → List Char × List (Char × List Char)
  | [] => ([], [])
  | c :: cs =>
    let cut := pieces cs
    if isMark c then ([], (c, cut.1) :: cut.2) else (c :: cut.1, cut.2)

/-- Marks with what stands behind each, put together again. -/
def spell (marked : List (Char × List Char)) : List Char := marked.flatMap fun m => m.1 :: m.2

/-- The names behind one of the marks. -/
def namesBehind (mark : Char) (marked : List (Char × List Char)) : List String :=
  (marked.filter fun m => m.1 == mark).map fun m => String.ofList m.2

theorem pieces_append {front : List Char} (h : ∀ c ∈ front, isMark c = false) (cs : List Char) :
    pieces (front ++ cs) = (front ++ (pieces cs).1, (pieces cs).2) := by
  induction front with
  | nil => rfl
  | cons c front ih =>
    have hrest := ih fun d hd => h d (.tail _ hd)
    rw [List.cons_append, pieces, hrest, h c (.head _)]
    rfl

/-- Names without marks are found again behind their marks. -/
theorem pieces_spell {marked : List (Char × List Char)}
    (h : ∀ m ∈ marked, isMark m.1 = true ∧ ∀ c ∈ m.2, isMark c = false) :
    pieces (spell marked) = ([], marked) := by
  induction marked with
  | nil => rfl
  | cons m marked ih =>
    obtain ⟨hmark, hname⟩ := h m (.head _)
    have hrest := ih fun m' hm' => h m' (.tail _ hm')
    show pieces (m.1 :: (m.2 ++ spell marked)) = _
    rw [pieces, pieces_append hname, hrest, if_pos hmark, List.append_nil]

/-! ### Reading a part -/

namespace SelectorPart

/-- The part that a text spells, with a qualifier. -/
def ofText (qualifier : Qualifier) (text : String) : SelectorPart :=
  let exact := text.toList.head? == some '^'
  let cut := pieces (if exact then text.toList.tail else text.toList)
  { qualifier
    element := if cut.1 = [] ∨ cut.1 = ['*'] then none else some (String.ofList cut.1)
    exact
    id := (namesBehind '#' cut.2).head?
    pseudoClass := (namesBehind ':' cut.2).head?
    classes := namesBehind '.' cut.2 }

/-- The names behind marks, in the order of the text. -/
def marked (p : SelectorPart) : List (Char × List Char) :=
  p.id.toList.map (fun name => ('#', name.toList)) ++
    p.classes.map (fun name => ('.', name.toList)) ++
    p.pseudoClass.toList.map fun name => (':', name.toList)

/-- The text without the sign that leaves out subtypes. -/
def body (p : SelectorPart) : List Char := p.elementText.toList ++ spell p.marked

theorem toList_text (p : SelectorPart) :
    p.text.toList = if p.exact then '^' :: p.body else p.body := by
  have hclasses : (String.join (p.classes.map fun c => "." ++ c)).toList =
      spell (p.classes.map fun name => ('.', name.toList)) := by
    have hclass : (fun c => ("." ++ c).toList) = fun name : String => '.' :: name.toList := by
      funext c
      rw [String.toList_append]
      rfl
    rw [String.toList_join, spell, List.flatMap_map, List.flatMap_map, hclass]
  rw [text, body, marked]
  simp only [String.toList_append, hclasses, spell, List.flatMap_append]
  cases p.exact <;> cases p.id <;> cases p.pseudoClass <;> simp

variable {p : SelectorPart}

theorem namesBehind_marked (p : SelectorPart) :
    namesBehind '#' p.marked = p.id.toList ∧ namesBehind '.' p.marked = p.classes ∧
      namesBehind ':' p.marked = p.pseudoClass.toList := by
  have hclasses : (p.classes.map fun name => String.ofList name.toList) = p.classes := by
    simp only [String.ofList_toList, List.map_id']
  refine ⟨?_, ?_, ?_⟩ <;> cases hid : p.id <;> cases hstate : p.pseudoClass <;>
    simp [namesBehind, marked, hid, hstate, List.filter_map, Function.comp_def]

/-- What stands behind a mark is a name. -/
theorem exists_name_of_mem_marked {m : Char × List Char} (hm : m ∈ p.marked) :
    isMark m.1 = true ∧ ∃ name ∈ p.names, m.2 = name.toList := by
  rw [marked, List.mem_append, List.mem_append] at hm
  simp only [List.mem_map] at hm
  rcases hm with (⟨name, hname, rfl⟩ | ⟨name, hname, rfl⟩) | ⟨name, hname, rfl⟩
  · exact ⟨rfl, name, by simp [names, hname], rfl⟩
  · exact ⟨rfl, name, by simp [names, hname], rfl⟩
  · exact ⟨rfl, name, by simp [names, hname], rfl⟩

/-- In the spelling of the type all is a star or no sign. -/
theorem eq_star_of_mem_elementText (hp : p.Named) {c : Char} (hc : c ∈ p.elementText.toList) :
    c = '*' ∨ c ∉ selectorSigns := by
  rw [elementText] at hc
  cases helement : p.element with
  | none =>
    rw [helement] at hc
    simp only at hc
    split at hc
    · exact .inl (List.mem_singleton.1 hc)
    · cases hc
  | some element =>
    rw [helement] at hc
    have hname : element ∈ p.names := by simp [names, helement]
    exact .inr ((hp element hname).2 c hc)

/-- In the text of a part all but the first sign is a star, a mark or no sign. -/
theorem mem_body (hp : p.Named) {c : Char} (hc : c ∈ p.body) :
    c = '*' ∨ isMark c = true ∨ c ∉ selectorSigns := by
  rcases List.mem_append.1 hc with hc | hc
  · exact (eq_star_of_mem_elementText hp hc).imp_right .inr
  · obtain ⟨m, hm, hc⟩ := List.mem_flatMap.1 hc
    obtain ⟨hmark, name, hname, hchars⟩ := exists_name_of_mem_marked hm
    rcases List.mem_cons.1 hc with rfl | hc
    · exact .inr (.inl hmark)
    · exact .inr (.inr ((hp name hname).2 c (hchars ▸ hc)))

theorem pieces_body (hp : p.Named) : pieces p.body = (p.elementText.toList, p.marked) := by
  have hplain : ∀ c, c ∉ selectorSigns → isMark c = false := by
    intro c hc
    simp only [selectorSigns, List.mem_cons, not_or] at hc
    simp [isMark, hc]
  have hfront : ∀ c ∈ p.elementText.toList, isMark c = false := by
    intro c hc
    rcases eq_star_of_mem_elementText hp hc with rfl | hc
    · rfl
    · exact hplain c hc
  have hmarked : ∀ m ∈ p.marked, isMark m.1 = true ∧ ∀ c ∈ m.2, isMark c = false := by
    intro m hm
    obtain ⟨hmark, name, hname, hchars⟩ := exists_name_of_mem_marked hm
    exact ⟨hmark, fun c hc => hplain c ((hp name hname).2 c (hchars ▸ hc))⟩
  rw [body, pieces_append hfront, pieces_spell hmarked, List.append_nil]

/-- The type is told by its spelling. -/
theorem element_of_elementText (hp : p.Named) :
    (if p.elementText.toList = [] ∨ p.elementText.toList = ['*'] then none
      else some (String.ofList p.elementText.toList)) = p.element := by
  rw [elementText]
  cases helement : p.element with
  | none =>
    simp only
    split <;> simp
  | some element =>
    have hname := hp element (by simp [names, helement])
    have hstar : element.toList ≠ ['*'] := by
      intro hstar
      exact hname.2 '*' (by rw [hstar]; exact .head _) (by decide)
    have hne : element.toList ≠ [] := by simpa using hname.1
    simp only [hne, hstar, or_self, if_false, String.ofList_toList]

/-- **A part is read back from its text.** -/
theorem ofText_text (hp : p.Named) (qualifier : Qualifier) :
    ofText qualifier p.text = { p with qualifier } := by
  have hexact : (p.text.toList.head? == some '^') = p.exact := by
    rw [toList_text]
    cases hexact : p.exact with
    | true => rfl
    | false =>
      rw [if_neg Bool.false_ne_true, beq_eq_false_iff_ne]
      intro hhead
      rcases mem_body hp (List.mem_of_mem_head? hhead) with h | h | h
      · exact absurd h (by decide)
      · exact absurd h (by decide)
      · exact h (by decide)
  have hbody : (if p.exact then p.text.toList.tail else p.text.toList) = p.body := by
    rw [toList_text]
    cases p.exact <;> rfl
  obtain ⟨hid, hclasses, hstate⟩ := namesBehind_marked p
  simp only [ofText, hexact, hbody, pieces_body hp, hid, hclasses, hstate,
    element_of_elementText hp, Option.head?_toList]

/-- The text of a part has no space and no sign of a qualifier in it. -/
theorem notMem_text (hp : p.Named) {c : Char} (hc : c ∈ p.text.toList) :
    c ≠ ' ' ∧ c ≠ '>' ∧ c ≠ '/' := by
  have hsign : c = '^' ∨ c ∈ p.body := by
    rw [toList_text] at hc
    split at hc
    · exact List.mem_cons.1 hc
    · exact .inr hc
  rcases hsign with rfl | hc
  · decide
  · rcases mem_body hp hc with rfl | hmark | hplain
    · decide
    · refine ⟨?_, ?_, ?_⟩ <;> (rintro rfl; revert hmark; decide)
    · refine ⟨?_, ?_, ?_⟩ <;> (rintro rfl; revert hplain; decide)

/-- No part is spelled by nothing at all. -/
theorem text_ne_empty (hp : p.Named) : p.text ≠ "" := by
  intro hempty
  -- nothing is read as a part that asks for nothing, and that is spelled by a star
  have hread := ofText_text hp p.qualifier
  rw [hempty] at hread
  have hstar : (ofText p.qualifier "").text = "*" := rfl
  rw [hread] at hstar
  exact absurd (hempty.symm.trans hstar) (by decide)

theorem ofSign?_text (hp : p.Named) : Qualifier.ofSign? p.text = none := by
  have hsign : ∀ sign : String, ('>' ∈ sign.toList ∨ '/' ∈ sign.toList) → p.text ≠ sign := by
    rintro sign (hmem | hmem) rfl
    · exact (notMem_text hp hmem).2.1 rfl
    · exact (notMem_text hp hmem).2.2 rfl
  rw [Qualifier.ofSign?, if_neg (hsign _ (by decide)), if_neg (hsign _ (by decide)),
    if_neg (hsign _ (by decide))]

end SelectorPart

/-! ### Reading a selector -/

/-- What stands before a part is a space, and the sign with another space if there is one. -/
theorem Qualifier.separator_eq_elim (q : Qualifier) :
    q.separator = q.sign?.elim " " fun sign => " " ++ sign ++ " " := by
  cases q <;> rfl

/-- The parts that words spell, the first of them with a qualifier: a sign is for the part behind
it. -/
def partsOfWords (qualifier : Qualifier) : List String → List SelectorPart
  | [] => []
  | word :: rest =>
    match Qualifier.ofSign? word with
    | some next => partsOfWords next rest
    | none => .ofText qualifier word :: partsOfWords .descendant rest

/-- The text of a part is the part, whatever words follow. -/
theorem partsOfWords_text {p : SelectorPart} (hp : p.Named) (qualifier : Qualifier)
    (words : List String) : partsOfWords qualifier (p.text :: words) =
      { p with qualifier } :: partsOfWords .descendant words := by
  rw [partsOfWords, SelectorPart.ofSign?_text hp]
  show SelectorPart.ofText qualifier p.text :: _ = _
  rw [SelectorPart.ofText_text hp]

namespace Selector

/-- The selector that a text spells. -/
def ofText (text : String) : Selector :=
  if text = "" then ⟨[]⟩
  else ⟨partsOfWords .descendant ((text.toList.splitOn ' ').map String.ofList)⟩

/-- What a text shows of a selector: the first part is not said to lie below anything. -/
def shown (s : Selector) : Selector :=
  match s.parts with
  | [] => ⟨[]⟩
  | first :: rest => ⟨{ first with qualifier := .descendant } :: rest⟩

/-- The words of parts that are not the first: the sign of the qualifier, if it has one, and the
text. -/
def wordsOf (parts : List SelectorPart) : List String :=
  parts.flatMap fun p => p.qualifier.sign?.toList ++ [p.text]

theorem wordsOf_cons (p : SelectorPart) (parts : List SelectorPart) :
    wordsOf (p :: parts) = p.qualifier.sign?.toList ++ p.text :: wordsOf parts := by
  rw [wordsOf, List.flatMap_cons, List.append_assoc]
  rfl

/-- A text is its words with spaces between them. -/
theorem append_join_eq_intercalate (first : String) (parts : List SelectorPart) :
    first ++ String.join (parts.map fun p => p.qualifier.separator ++ p.text) =
      " ".intercalate (first :: wordsOf parts) := by
  induction parts generalizing first with
  | nil => simp [wordsOf]
  | cons p parts ih =>
    rw [List.map_cons, String.join_cons, String.append_assoc, ih, wordsOf_cons,
      Qualifier.separator_eq_elim]
    cases p.qualifier.sign? with
    | none =>
      show first ++ (" " ++ _) = " ".intercalate (first :: p.text :: wordsOf parts)
      rw [String.intercalate_cons_cons, String.append_assoc]
    | some sign =>
      show first ++ (" " ++ sign ++ " " ++ _) =
        " ".intercalate (first :: sign :: p.text :: wordsOf parts)
      rw [String.intercalate_cons_cons, String.intercalate_cons_cons]
      simp only [String.append_assoc]

/-- The words of parts are read as the parts. -/
theorem partsOfWords_wordsOf {parts : List SelectorPart} (h : ∀ p ∈ parts, p.Named) :
    partsOfWords .descendant (wordsOf parts) = parts := by
  induction parts with
  | nil => rfl
  | cons p parts ih =>
    have hp := h p (.head _)
    have hrest := ih fun p' hp' => h p' (.tail _ hp')
    rw [wordsOf_cons]
    cases hsign : p.qualifier.sign? with
    | none =>
      show partsOfWords .descendant (p.text :: wordsOf parts) = _
      rw [partsOfWords_text hp, hrest, ← Qualifier.eq_descendant_of_sign? hsign]
    | some sign =>
      show partsOfWords .descendant (sign :: p.text :: wordsOf parts) = _
      rw [partsOfWords, Qualifier.ofSign?_of_sign? hsign]
      show partsOfWords p.qualifier (p.text :: wordsOf parts) = _
      rw [partsOfWords_text hp, hrest]

/-- There is no space in a word. -/
theorem notMem_wordsOf {parts : List SelectorPart} (h : ∀ p ∈ parts, p.Named) {word : String}
    (hword : word ∈ wordsOf parts) : ' ' ∉ word.toList := by
  obtain ⟨p, hp, hword⟩ := List.mem_flatMap.1 hword
  rcases List.mem_append.1 hword with hsign | htext
  · cases hq : p.qualifier <;> rw [hq] at hsign <;> revert hsign <;>
      simp +contextual [Qualifier.sign?]
  · rw [List.mem_singleton.1 htext]
    exact fun hspace => (SelectorPart.notMem_text (h p hp) hspace).1 rfl

/-- **A selector is read back from its text**, but for what the text does not show. -/
theorem ofText_text {s : Selector} (hs : s.Named) : ofText s.text = s.shown := by
  obtain ⟨parts⟩ := s
  cases parts with
  | nil => rfl
  | cons first rest =>
    have hfirst : first.Named := hs first (.head _)
    have hrest : ∀ p ∈ rest, p.Named := fun p hp => hs p (.tail _ hp)
    have htext : (⟨first :: rest⟩ : Selector).text = " ".intercalate (first.text :: wordsOf rest) :=
      append_join_eq_intercalate first.text rest
    have hne : (⟨first :: rest⟩ : Selector).text ≠ "" := by
      intro hempty
      have hlist : first.text.toList ++
          (String.join (rest.map fun p => p.qualifier.separator ++ p.text)).toList = [] := by
        rw [← String.toList_append]
        exact congrArg String.toList hempty
      have hnil := (List.append_eq_nil_iff.1 hlist).1
      exact SelectorPart.text_ne_empty hfirst (by simpa using hnil)
    have hwords : ((⟨first :: rest⟩ : Selector).text.toList.splitOn ' ').map String.ofList =
        first.text :: wordsOf rest := by
      rw [htext, String.toList_intercalate]
      show (([' '].intercalate _).splitOn ' ').map String.ofList = _
      rw [List.splitOn_intercalate]
      · simp
      · intro word hword
        obtain ⟨w, hw, rfl⟩ := List.mem_map.1 hword
        rcases List.mem_cons.1 hw with rfl | hw
        · exact fun hspace => (SelectorPart.notMem_text hfirst hspace).1 rfl
        · exact notMem_wordsOf hrest hw
      · exact List.cons_ne_nil _ _
    rw [ofText, if_neg hne, hwords, partsOfWords_text hfirst, partsOfWords_wordsOf hrest]
    rfl

/-- The qualifier of the first part makes no difference to the text. -/
theorem text_shown (s : Selector) : s.shown.text = s.text := by
  obtain ⟨parts⟩ := s
  cases parts <;> rfl

/-- **The text of a selector determines the selector.**  Let no name in two selectors be empty or
have a sign in it.  Then their texts are equal exactly when the selectors are, but for the qualifier
of the first part. -/
theorem text_eq_text_iff {s t : Selector} (hs : s.Named) (ht : t.Named) :
    s.text = t.text ↔ s.shown = t.shown := by
  constructor
  · intro h
    rw [← ofText_text hs, ← ofText_text ht, h]
  · intro h
    rw [← text_shown s, ← text_shown t, h]

/-- Two spellings of one selector, which differ in what is not shown. -/
theorem text_eq_text_iff_first :
    let first : SelectorPart := { qualifier := .visualChild, element := some "Button",
                                  classes := ["primary", "large"] }
    let second : SelectorPart := { qualifier := .templatedChild, exact := true,
                                   pseudoClass := some "hover" }
    let s : Selector := ⟨[first, second]⟩
    let t : Selector := ⟨[{ first with qualifier := .logicalChild }, second]⟩
    s.Named ∧ t.Named ∧ s.text = "Button.primary.large >> ^*:hover" ∧ s.text = t.text ∧ s ≠ t ∧
      s.shown = t.shown := by
  intro first second s t
  have hs : s.Named := by decide
  have ht : t.Named := by decide
  have htext : s.text = t.text := rfl
  exact ⟨hs, ht, rfl, htext, by decide, (text_eq_text_iff hs ht).1 htext⟩

end Selector

end StyledText.Stylesheet
