import VectorSearch.Json.Outline
import VectorSearch.Json.Printer
import VectorSearch.Proofs.Number.Digits

namespace VectorSearch.Json

open Number Text Builder

/-- What the text of a floating-point magnitude spells, if it is finite. -/
def floatNumeral (format : BinaryFormat) (range : PositionalRange) (code : Nat) (negative : Bool) :
    Numeral :=
  let digits := format.digits .toEven code
  if range.above < digits.point ∧ digits.point ≤ range.upTo then digits.positionalNumeral negative
  else digits.scientificNumeral negative

def floatOutline (format : BinaryFormat) (range : PositionalRange) (code : Nat) (negative : Bool) :
    Outline :=
  if code < format.infinity then .number (floatNumeral format range code negative) else .null

mutual

def outlined : Json → Outline
  | .null => .null
  | .bool value => .bool value
  | .int n => .number (.ofInt n)
  | .float x => floatOutline binary64 doubleRange (magnitude64 x).1 (magnitude64 x).2
  | .single x => floatOutline binary32 singleRange (magnitude32 x).1 (magnitude32 x).2
  | .str content => .text (some content)
  | .arr items => .items (outlinedItems items) true
  | .obj members => .members (outlinedMembers members) true

def outlinedItems : List Json → List Outline
  | [] => []
  | item :: rest => item.outlined :: outlinedItems rest

def outlinedMembers : List (String × Json) → List (Option String × Outline)
  | [] => []
  | (key, value) :: rest => (some key, value.outlined) :: outlinedMembers rest

end

theorem proper_floatNumeral (format : BinaryFormat) (range : PositionalRange) (code : Nat)
    (negative : Bool) : (floatNumeral format range code negative).Proper := by
  have proper := format.proper_digits .toEven code
  dsimp only [floatNumeral]
  split
  next => exact proper.positionalNumeral negative
  next => exact proper.scientificNumeral negative

theorem text_floatNumeral (format : BinaryFormat) (range : PositionalRange) (code : Nat)
    (negative : Bool) :
    (floatNumeral format range code negative).text =
      signText negative ++ digitsText range (format.digits .toEven code) := by
  dsimp only [floatNumeral, digitsText]
  split
  next => exact Digits.text_positionalNumeral negative
  next => exact Digits.text_scientificNumeral negative

theorem text_ofInt (n : Int) : (Numeral.ofInt n).text = wholeText n := by
  simp [Numeral.text, Numeral.ofInt, wholeText, signText]

/-- A builder that is given the tokens of a text. -/
def feed (builder : Builder) (text : List Char) : Builder :=
  (tokens text).foldl Builder.step builder

variable {builder : Builder} {rest : List Char}

theorem feed_token {c : Char} {text after : List Char} {token : Token} (visible : isGap c = false)
    (scanned : scanToken (c :: text) = some (token, after)) :
    feed builder (c :: text) = feed (builder.step token) after := by
  rw [feed, tokens, if_neg (by simp [visible])]
  split
  next missing => simp [scanned] at missing
  next found =>
    cases scanned.symm.trans found
    rfl

theorem feed_nil : feed builder [] = builder := by
  rw [feed, tokens]
  rfl

theorem feed_openArray : feed builder ('[' :: rest) = feed (builder.step .openArray) rest :=
  feed_token rfl rfl

theorem feed_openObject : feed builder ('{' :: rest) = feed (builder.step .openObject) rest :=
  feed_token rfl rfl

theorem feed_closeArray : feed builder (']' :: rest) = feed (builder.step .closeArray) rest :=
  feed_token rfl rfl

theorem feed_closeObject : feed builder ('}' :: rest) = feed (builder.step .closeObject) rest :=
  feed_token rfl rfl

theorem feed_comma : feed builder (',' :: rest) = feed (builder.step .comma) rest :=
  feed_token rfl rfl

theorem feed_colon : feed builder (':' :: rest) = feed (builder.step .colon) rest :=
  feed_token rfl rfl

theorem scanToken_number {c : Char} {text : List Char} (starts : c = '-' ∨ c.isDigit = true) :
    scanToken (c :: text) =
      (Numeral.scan (c :: text)).map fun (numeral, rest) => (.number numeral, rest) := by
  unfold scanToken
  split <;> first | rfl | simp_all [Char.isDigit]

theorem feed_number {numeral : Numeral} (proper : numeral.Proper) (stops : Stops rest) :
    feed builder (numeral.text ++ rest) = feed (builder.step (.number numeral)) rest := by
  have scanned := Numeral.scan_text proper stops
  obtain ⟨c, text, spelled, starts⟩ :
      ∃ c text, numeral.text ++ rest = c :: text ∧ (c = '-' ∨ c.isDigit = true) := by
    obtain ⟨first, others, whole, digit⟩ := proper.whole.exists_cons
    rw [Numeral.text_eq, whole]
    cases numeral.negative
    · exact ⟨first, _, rfl, .inr digit⟩
    · exact ⟨'-', _, rfl, .inl rfl⟩
  have visible : isGap c = false := by
    rcases starts with rfl | digit
    · rfl
    · simp only [isGap, Bool.or_eq_false_iff, beq_eq_false_iff_ne]
      refine ⟨⟨⟨?_, ?_⟩, ?_⟩, ?_⟩ <;> rintro rfl <;> exact Bool.noConfusion digit
  rw [spelled] at scanned ⊢
  exact feed_token visible (by rw [scanToken_number starts, scanned]; rfl)

/-- A character inside quotes is read back from its escape. -/
theorem scanText_escape (c : Char) (chars : List Char) :
    scanText (escape c ++ rest) ⟨chars, none, true⟩ = scanText rest ⟨c :: chars, none, true⟩ := by
  unfold escape
  split
  case h_1 | h_2 | h_3 | h_4 | h_5 | h_6 | h_7 => rfl
  case h_8 quote backslash _ _ _ _ _ =>
    split
    next control =>
      have code : c.toNat < 32 := control
      have digits : ∀ n < 32, hexNumber? (hexText 4 n) = some n := by decide
      have unit : Spelled.putUnit ⟨chars, none, true⟩ c.toNat = ⟨c :: chars, none, true⟩ := by
        rw [Spelled.putUnit, if_neg (by omega), if_neg (by omega), Char.ofNat_toNat]
        rfl
      change (hexNumber? (hexText 4 c.toNat)).bind
        (fun unit => scanText rest (Spelled.putUnit ⟨chars, none, true⟩ unit)) = _
      rw [digits _ code, Option.bind_some, unit]
    next plain =>
      rw [List.singleton_append, scanText]
      · rw [if_neg (not_or.mpr ⟨backslash, plain⟩)]
        rfl
      · exact quote
      · exact fun _ _ _ _ _ same _ => backslash same
      · exact fun _ _ same _ => backslash same

theorem scanText_content (content chars : List Char) :
    scanText (content.flatMap escape ++ '"' :: rest) ⟨chars, none, true⟩ =
      some (some (String.ofList (chars.reverse ++ content)), rest) := by
  induction content generalizing chars with
  | nil => simp [scanText, Spelled.content, Spelled.settle]
  | cons c content ih =>
      rw [List.flatMap_cons, List.append_assoc, scanText_escape, ih, List.reverse_cons,
        List.append_assoc, List.singleton_append]

theorem feed_string (content : String) :
    feed builder (stringText content ++ rest) = feed (builder.step (.text (some content))) rest := by
  have scanned : scanText (content.toList.flatMap escape ++ '"' :: rest) .empty =
      some (some content, rest) := by
    rw [Spelled.empty, scanText_content]
    simp
  have spelled : stringText content ++ rest =
      '"' :: (content.toList.flatMap escape ++ '"' :: rest) := by
    simp [stringText]
  rw [spelled]
  exact feed_token rfl (by rw [scanToken, scanned]; rfl)

theorem stops_itemChars (items : List Json) : Stops (itemChars items ++ rest) := by
  cases items <;> (rintro c ⟨⟩; decide)

theorem stops_memberChars (members : List (String × Json)) :
    Stops (memberChars members ++ rest) := by
  obtain _ | ⟨⟨key, value⟩, members⟩ := members <;> (rintro c ⟨⟩; decide)

/-- A token that opens a value, or is one, where a value is expected. -/
theorem step_value {expected : Expected} (ready : expected = .value ∨ expected = .firstValue)
    {token : Token} {frames : List Frame} {opened : Builder}
    (opens : open? token frames = some opened) :
    (within expected frames).step token = opened := by
  rcases ready with rfl | rfl
  · simp [step, opens]
  · cases token with
    | closeArray => simp [open?] at opens
    | _ => simp [step, opens]

theorem feed_float {expected : Expected} (ready : expected = .value ∨ expected = .firstValue)
    {frames : List Frame} (format : BinaryFormat) (range : PositionalRange) (code : Nat)
    (negative : Bool) (stops : Stops rest) :
    feed (within expected frames) (floatText format range code negative ++ rest) =
      feed (supply (floatOutline format range code negative) frames) rest := by
  rw [floatText, floatOutline]
  split
  next =>
    rw [← text_floatNumeral, feed_number (proper_floatNumeral ..) stops, step_value ready rfl]
  next => exact (feed_token rfl rfl).trans (by rw [step_value ready rfl]; rfl)

mutual

theorem feed_chars (value : Json) {expected : Expected}
    (ready : expected = .value ∨ expected = .firstValue) (frames : List Frame)
    (rest : List Char) (stops : Stops rest) :
    feed (within expected frames) (value.chars ++ rest) =
      feed (supply value.outlined frames) rest := by
  match value with
  | .null => exact (feed_token rfl rfl).trans (by rw [step_value ready rfl]; rfl)
  | .bool true => exact (feed_token rfl rfl).trans (by rw [step_value ready rfl]; rfl)
  | .bool false => exact (feed_token rfl rfl).trans (by rw [step_value ready rfl]; rfl)
  | .int n =>
      rw [chars, ← text_ofInt, feed_number (Numeral.proper_ofInt n) stops, step_value ready rfl]
      rfl
  | .float x => exact feed_float ready binary64 doubleRange _ _ stops
  | .single x => exact feed_float ready binary32 singleRange _ _ stops
  | .str content =>
      rw [chars, feed_string, step_value ready rfl]
      rfl
  | .arr [] =>
      rw [chars, List.cons_append, feed_openArray, step_value ready rfl]
      exact feed_closeArray
  -- The first item comes without a comma, so it is fed here and the others after it.
  | .arr (item :: items) =>
      rw [chars, List.cons_append, feed_openArray, step_value ready rfl, List.append_assoc,
        feed_chars item (.inr rfl) _ _ (stops_itemChars items)]
      exact feed_itemChars items [item.outlined] frames rest
  | .obj [] =>
      rw [chars, List.cons_append, feed_openObject, step_value ready rfl]
      exact feed_closeObject
  | .obj ((key, value) :: members) =>
      rw [chars, List.cons_append, feed_openObject, step_value ready rfl, List.append_assoc,
        feed_string, List.cons_append, feed_colon, List.append_assoc]
      exact (feed_chars value (.inl rfl) _ _ (stops_memberChars members)).trans
        (feed_memberChars members [(some key, value.outlined)] frames rest)

theorem feed_itemChars (items : List Json) (held : List Outline) (frames : List Frame)
    (rest : List Char) :
    feed (within .separator (.items held :: frames)) (itemChars items ++ rest) =
      feed (supply (.items (held.reverse ++ outlinedItems items) true) frames) rest := by
  match items with
  | [] =>
      rw [itemChars, outlinedItems, List.append_nil]
      exact feed_closeArray
  | item :: items =>
      rw [itemChars, List.cons_append, feed_comma, List.append_assoc]
      refine (feed_chars item (.inl rfl) _ _ (stops_itemChars items)).trans ?_
      refine (feed_itemChars items (item.outlined :: held) frames rest).trans ?_
      rw [List.reverse_cons, List.append_assoc]
      rfl

theorem feed_memberChars (members : List (String × Json))
    (held : List (Option String × Outline)) (frames : List Frame) (rest : List Char) :
    feed (within .separator (.members held :: frames)) (memberChars members ++ rest) =
      feed (supply (.members (held.reverse ++ outlinedMembers members) true) frames) rest := by
  match members with
  | [] =>
      rw [memberChars, outlinedMembers, List.append_nil]
      exact feed_closeObject
  | (key, value) :: members =>
      rw [memberChars, List.cons_append, feed_comma, List.append_assoc, feed_string,
        List.cons_append, feed_colon, List.append_assoc]
      refine (feed_chars value (.inl rfl) _ _ (stops_memberChars members)).trans ?_
      refine (feed_memberChars members ((some key, value.outlined) :: held) frames rest).trans ?_
      rw [List.reverse_cons, List.append_assoc]
      rfl

end

/-- The text of a value is one whole text, and says what the value says. -/
theorem outline_print (value : Json) : outline value.print = (value.outlined, true) := by
  have fed := feed_chars value (.inl rfl) [] [] stops_nil
  rw [List.append_nil, feed_nil] at fed
  rw [outline, print, String.toList_ofList]
  change (feed (within .value []) value.chars).finish = _
  rw [fed]
  rfl

theorem chars_ne_nil (value : Json) : value.chars ≠ [] := by
  intro empty
  have whole := outline_print value
  rw [outline, print, empty, String.toList_ofList, tokens] at whole
  exact Bool.false_ne_true (congrArg Prod.snd whole)

end VectorSearch.Json
