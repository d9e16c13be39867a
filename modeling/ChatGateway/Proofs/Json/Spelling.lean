import ChatGateway.Json.Token

/-!
The tokens of a compact text. `Token.scan` is the automaton read forwards, and `Token.ofJson` the
tokens that a value is spelt with; `scan_chars` says that the text of a value gives just these. A
number is the one token that needs to see what comes after it, hence `Breaks`.
-/
namespace ChatGateway

open Number (Digit Numeral)

namespace Number

/-- Spelt as JSON wants it: no needless zero in front, and digits in the exponent if it has one. -/
def Numeral.isJson (n : Numeral) : Bool :=
  (match n.whole with
    | [] => false
    | d :: rest => d.val ≠ 0 || rest.isEmpty) &&
  n.exponent.all fun (_, digits) => !digits.isEmpty

theorem Digit.ofChar?_toChar : ∀ d : Digit, Digit.ofChar? d.toChar = some d := by decide

end Number

namespace Json

mutual

/-- Every numeral in the value is spelt as JSON wants it. -/
def isRegular : Json → Bool
  | .number n => n.isJson
  | .array items => itemsRegular items
  | .object members => membersRegular members
  | _ => true

def itemsRegular : List Json → Bool
  | [] => true
  | item :: rest => item.isRegular && itemsRegular rest

def membersRegular : List (String × Json) → Bool
  | [] => true
  | (_, value) :: rest => value.isRegular && membersRegular rest

end

namespace Token

mutual

def ofJson : Json → List Token
  | .null => [.leaf .null]
  | .bool b => [.leaf (.bool b)]
  | .number n => [.leaf (.number n)]
  | .string s => [.leaf (.string s)]
  | .array items => .openArray :: ofItems items ++ [.closeArray]
  | .object members => .openObject :: ofMembers members ++ [.closeObject]

def ofItems : List Json → List Token
  | [] => []
  | [item] => ofJson item
  | item :: rest => ofJson item ++ .comma :: ofItems rest

def ofMembers : List (String × Json) → List Token
  | [] => []
  | [(key, value)] => .leaf (.string key) :: .colon :: ofJson value
  | (key, value) :: rest =>
    .leaf (.string key) :: .colon :: ofJson value ++ .comma :: ofMembers rest

end

/-- The tokens of a text that is met in the given state. -/
def scan : State → List Char → List Token
  | state, [] => finish state
  | state, c :: rest => (step state c).1 ++ scan (step state c).2 rest

theorem ofChars_eq_scan (text : List Char) : ofChars text = scan .ready text := by
  have collected (reversed : List Token) (state : State) :
      let all := text.foldl (fun all c => ((step all.2 c).1.reverseAux all.1, (step all.2 c).2))
        (reversed, state)
      ((finish all.2).reverseAux all.1).reverse = reversed.reverse ++ scan state text := by
    induction text generalizing reversed state with
    | nil => simp [scan, List.reverseAux_eq]
    | cons c rest ih =>
      rw [List.foldl_cons]
      refine (ih ((step state c).1.reverseAux reversed) (step state c).2).trans ?_
      simp [scan, List.reverseAux_eq]
  exact collected [] .ready

theorem scan_ready (c : Char) (rest : List Char) :
    scan .ready (c :: rest) = (start c).1 ++ scan (start c).2 rest := rfl

/-- After a character that fits nowhere, nothing is looked at. -/
theorem scan_stopped (text : List Char) : scan .stopped text = [] := by
  induction text with
  | nil => rfl
  | cons c rest ih => exact ih

theorem ofChars_stray {c : Char} (stray : start c = ([.bad], .stopped)) (rest : List Char) :
    ofChars (c :: rest) = [.bad] := by
  rw [ofChars_eq_scan, scan_ready, stray, scan_stopped]
  rfl

/-! White space -/

def isSpace (c : Char) : Bool := c = ' ' || c = '\t' || c = '\n' || c = '\r'

theorem start_space {c : Char} (space : isSpace c = true) : start c = ([], .ready) := by
  simp only [isSpace, Bool.or_eq_true, decide_eq_true_eq] at space
  rcases space with ((rfl | rfl) | rfl) | rfl <;> rfl

/-- White space in front of a text is passed over. -/
theorem ofChars_space {spaces : List Char} (blank : ∀ c ∈ spaces, isSpace c = true)
    (text : List Char) : ofChars (spaces ++ text) = ofChars text := by
  induction spaces with
  | nil => rfl
  | cons c spaces ih =>
    have rest := ih fun later found => blank later (List.mem_cons_of_mem _ found)
    rw [ofChars_eq_scan] at rest ⊢
    rw [List.cons_append, scan_ready, start_space (blank c (List.mem_cons_self ..)),
      List.nil_append, rest, ofChars_eq_scan]

/-! Strings -/

theorem hexValue?_digitChar : ∀ n < 16, Text.hexValue? (Nat.digitChar n) = some n := by decide

/-- An escaped character is read back, one character at a time. -/
theorem scan_escapeChar (reversed : List Char) (c : Char) (rest : List Char) :
    scan (.text ⟨reversed, true, none⟩) (escapeChar c ++ rest) =
      scan (.text ⟨c :: reversed, true, none⟩) rest := by
  unfold escapeChar
  split
  -- all but the last case are characters with an escape of their own
  all_goals try rfl
  next quoted slashed _ _ _ _ _ =>
    split
    next control =>
      have high := hexValue?_digitChar (c.toNat / 16) (by omega)
      have low := hexValue?_digitChar (c.toNat % 16) (by omega)
      have zero : Text.hexValue? '0' = some 0 := by decide
      have whole : c.toNat / 16 * 16 + c.toNat % 16 = c.toNat := by omega
      have unpaired : ¬ (0xD800 ≤ c.toNat ∧ c.toNat < 0xDC00) := by omega
      have unpairedLow : ¬ (0xDC00 ≤ c.toNat ∧ c.toNat < 0xE000) := by omega
      simp [scan, step, zero, high, low, Draft.pushUnit, whole, unpaired, unpairedLow,
        Char.ofNat_toNat]
    next visible =>
      have noQuote : c ≠ '"' := fun same => quoted same
      have noSlash : c ≠ '\\' := fun same => slashed same
      simp [scan, step, noQuote, noSlash, visible, Draft.push]

theorem scan_text (reversed text rest : List Char) :
    scan (.text ⟨reversed, true, none⟩) (text.flatMap escapeChar ++ '"' :: rest) =
      .leaf (.string (String.ofList (reversed.reverse ++ text))) :: scan .ready rest := by
  induction text generalizing reversed with
  | nil => simp [scan, step, Draft.reading]
  | cons c text ih =>
    rw [List.flatMap_cons, List.append_assoc, scan_escapeChar, ih]
    simp

theorem scan_quote (text : String) (rest : List Char) :
    scan .ready (quote text ++ rest) = .leaf (.string text) :: scan .ready rest := by
  have body := scan_text [] text.toList rest
  simp only [List.reverse_nil, List.nil_append, String.ofList_toList] at body
  rw [← body, quote]
  simp only [List.cons_append, List.append_assoc, List.nil_append]
  rfl

/-! Numbers -/

/-- A number that is complete ends before this text. -/
def Breaks (rest : List Char) : Prop :=
  ∀ c ∈ rest.head?, Digit.ofChar? c = none ∧ c ≠ '.' ∧ c ≠ 'e' ∧ c ≠ 'E'

theorem breaks_nil : Breaks [] := fun _ member => absurd member (by simp)

theorem breaks_cons {c : Char} (rest : List Char)
    (foreign : Digit.ofChar? c = none ∧ c ≠ '.' ∧ c ≠ 'e' ∧ c ≠ 'E') : Breaks (c :: rest) := by
  intro other member
  cases member
  exact foreign

theorem scan_break {phase : Phase} {n : Numeral} {rest : List Char}
    (complete : phase.isComplete = true) (breaks : Breaks rest) :
    scan (.number phase n) rest = .leaf (.number (turn n)) :: scan .ready rest := by
  cases rest with
  | nil => simp [scan, finish, complete]
  | cons c rest =>
    obtain ⟨noDigit, noPoint, noMark, noCapital⟩ := breaks c rfl
    have atEnd : advance phase n c = none := by
      cases phase <;> simp [Phase.isComplete] at complete <;>
        simp [advance, noDigit, noPoint, noMark, noCapital]
    simp [scan, step, atEnd, complete, noDigit]

/-- Digits of a part in whose phase they stay; `numeral` is what is read when the part has the given
digits, last one first. -/
theorem scan_digits {phase : Phase} (numeral : List Digit → Numeral)
    (stays : ∀ d reversed,
      advance phase (numeral reversed) d.toChar = some (phase, numeral (d :: reversed)))
    (digits reversed : List Digit) (rest : List Char) :
    scan (.number phase (numeral reversed)) (digits.map Digit.toChar ++ rest) =
      scan (.number phase (numeral (digits.reverse ++ reversed))) rest := by
  induction digits generalizing reversed with
  | nil => rfl
  | cons d digits ih =>
    rw [List.map_cons, List.cons_append, scan]
    simp only [step, stays, List.nil_append, ih, List.reverse_cons, List.append_assoc,
      List.cons_append]

/-- A part that begins with a digit of its own. -/
theorem scan_part {before phase : Phase} {n : Numeral} (numeral : List Digit → Numeral)
    (begins : ∀ d : Digit, advance before n d.toChar = some (phase, numeral [d]))
    (stays : ∀ d reversed,
      advance phase (numeral reversed) d.toChar = some (phase, numeral (d :: reversed)))
    (digits : List Digit) (given : digits ≠ []) (rest : List Char) :
    scan (.number before n) (digits.map Digit.toChar ++ rest) =
      scan (.number phase (numeral digits.reverse)) rest := by
  cases digits with
  | nil => exact absurd rfl given
  | cons d digits =>
    have later := scan_digits numeral stays digits [d] rest
    rw [List.map_cons, List.cons_append, scan]
    simp only [step, begins, List.nil_append, later, List.reverse_cons]

/-- Whether a number in this phase may go on with an exponent. -/
def Phase.takesExponent : Phase → Bool
  | .zero | .whole | .fraction => true
  | _ => false

theorem scan_exponent {phase : Phase} (takes : phase.takesExponent = true) (minus : Bool)
    (digits : List Digit) (given : digits ≠ []) (negative : Bool) (whole fraction : List Digit)
    (rest : List Char) :
    scan (.number phase ⟨negative, whole, fraction, none⟩)
        ('e' :: (if minus then '-' else '+') :: digits.map Digit.toChar ++ rest) =
      scan (.number .exponent ⟨negative, whole, fraction, some (minus, digits.reverse)⟩) rest := by
  have marked (rest : List Char) :
      scan (.number phase ⟨negative, whole, fraction, none⟩) ('e' :: rest) =
        scan (.number .mark ⟨negative, whole, fraction, some (false, [])⟩) rest := by
    have noDigit : Digit.ofChar? 'e' = none := by decide
    cases phase <;> simp [Phase.takesExponent] at takes <;> simp [scan, step, advance, noDigit]
  have signed (rest : List Char) :
      scan (.number .mark ⟨negative, whole, fraction, some (false, [])⟩)
          ((if minus then '-' else '+') :: rest) =
        scan (.number .exponentSign ⟨negative, whole, fraction, some (minus, [])⟩) rest := by
    cases minus <;> rfl
  rw [List.cons_append, List.cons_append, marked, signed]
  apply scan_part fun reversed => ⟨negative, whole, fraction, some (minus, reversed)⟩
  · intro d
    simp [advance, Digit.ofChar?_toChar]
  · intro d reversed
    simp [advance, Digit.ofChar?_toChar]
  · exact given

/-- The phase after the first digit. -/
def Phase.first (d : Digit) : Phase := if d.val = 0 then .zero else .whole

theorem start_toChar (d : Digit) :
    start d.toChar = ([], .number (.first d) ⟨false, [d], [], none⟩) := by
  match d with
  | 0 | 1 | 2 | 3 | 4 | 5 | 6 | 7 | 8 | 9 => rfl

theorem scan_first (negative : Bool) (d : Digit) (rest : List Char) :
    scan .ready ((if negative then ['-'] else []) ++ d.toChar :: rest) =
      scan (.number (.first d) ⟨negative, [d], [], none⟩) rest := by
  cases negative with
  | false =>
    simp only [Bool.false_eq_true, if_false, List.nil_append, scan_ready, start_toChar]
  | true =>
    have signed : advance .sign ⟨true, [], [], none⟩ d.toChar =
        some (.first d, ⟨true, [d], [], none⟩) := by
      simp only [advance, Digit.ofChar?_toChar, Phase.first]
    have minus : start '-' = ([], .number .sign ⟨true, [], [], none⟩) := rfl
    simp only [if_true, List.cons_append, List.nil_append, scan_ready, minus]
    simp only [scan, step, signed, List.nil_append]

theorem scan_whole (negative : Bool) (d : Digit) (digits : List Digit)
    (noLead : d.val = 0 → digits = []) (rest : List Char) :
    scan .ready ((if negative then ['-'] else []) ++ (d :: digits).map Digit.toChar ++ rest) =
      scan (.number (.first d) ⟨negative, (d :: digits).reverse, [], none⟩) rest := by
  rw [List.append_assoc, List.map_cons, List.cons_append, scan_first]
  by_cases zero : d.val = 0
  · rw [noLead zero]
    rfl
  · have phase : Phase.first d = .whole := if_neg zero
    rw [phase, scan_digits fun reversed => ⟨negative, reversed, [], none⟩]
    · rw [List.reverse_cons]
    · intro d reversed
      simp only [advance, Digit.ofChar?_toChar]

theorem scan_fraction {phase : Phase} (takes : phase = .zero ∨ phase = .whole)
    (digits : List Digit) (given : digits ≠ []) (negative : Bool) (whole : List Digit)
    (rest : List Char) :
    scan (.number phase ⟨negative, whole, [], none⟩) ('.' :: digits.map Digit.toChar ++ rest) =
      scan (.number .fraction ⟨negative, whole, digits.reverse, none⟩) rest := by
  have pointed (rest : List Char) :
      scan (.number phase ⟨negative, whole, [], none⟩) ('.' :: rest) =
        scan (.number .point ⟨negative, whole, [], none⟩) rest := by
    rcases takes with rfl | rfl <;> rfl
  rw [List.cons_append, pointed]
  apply scan_part fun reversed => ⟨negative, whole, reversed, none⟩
  · intro d
    simp only [advance, Digit.ofChar?_toChar]
  · intro d reversed
    simp only [advance, Digit.ofChar?_toChar]
  · exact given

/-- A numeral without its exponent. -/
theorem scan_mantissa (negative : Bool) (d : Digit) (digits fraction : List Digit)
    (noLead : d.val = 0 → digits = []) :
    ∃ phase : Phase, phase.isComplete = true ∧ phase.takesExponent = true ∧
      ∀ rest, scan .ready (Numeral.chars ⟨negative, d :: digits, fraction, none⟩ ++ rest) =
        scan (.number phase ⟨negative, (d :: digits).reverse, fraction.reverse, none⟩) rest := by
  have first : Phase.first d = .zero ∨ Phase.first d = .whole := by
    unfold Phase.first
    split
    · exact .inl rfl
    · exact .inr rfl
  cases fraction with
  | nil =>
    refine ⟨.first d, ?_, ?_, fun rest => ?_⟩
    · rcases first with same | same <;> rw [same] <;> rfl
    · rcases first with same | same <;> rw [same] <;> rfl
    · simp only [Numeral.chars, List.append_nil, scan_whole negative d digits noLead,
        List.reverse_nil]
  | cons f fraction =>
    refine ⟨.fraction, rfl, rfl, fun rest => ?_⟩
    simp only [Numeral.chars, List.append_nil, List.append_assoc]
    rw [← List.append_assoc, scan_whole negative d digits noLead]
    exact scan_fraction first _ (List.cons_ne_nil f fraction) ..

theorem chars_exponent (negative minus : Bool) (whole fraction digits : List Digit) :
    Numeral.chars ⟨negative, whole, fraction, some (minus, digits)⟩ =
      Numeral.chars ⟨negative, whole, fraction, none⟩ ++
        'e' :: (if minus then '-' else '+') :: digits.map Digit.toChar := by
  simp only [Numeral.chars, List.append_nil]

theorem scan_numeral (n : Numeral) (spelt : n.isJson = true) (rest : List Char)
    (breaks : Breaks rest) :
    scan .ready (n.chars ++ rest) = .leaf (.number n) :: scan .ready rest := by
  obtain ⟨negative, whole, fraction, exponent⟩ := n
  rw [Numeral.isJson, Bool.and_eq_true] at spelt
  obtain ⟨whole_spelt, exponent_spelt⟩ := spelt
  cases whole with
  | nil => cases whole_spelt
  | cons d digits =>
    have noLead : d.val = 0 → digits = [] := by
      intro zero
      simpa [zero] using whole_spelt
    obtain ⟨phase, complete, takes, read⟩ := scan_mantissa negative d digits fraction noLead
    cases exponent with
    | none =>
      rw [read, scan_break complete breaks]
      simp [turn]
    | some power =>
      obtain ⟨minus, power⟩ := power
      have given : power ≠ [] := by
        intro empty
        simp [empty] at exponent_spelt
      rw [chars_exponent, List.append_assoc, read, scan_exponent takes minus power given,
        scan_break rfl breaks]
      simp [turn]

/-! Values -/

theorem breaks_closing {c : Char} (closing : c = ',' ∨ c = ']' ∨ c = '\x7d') (rest : List Char) :
    Breaks (c :: rest) := by
  rcases closing with rfl | rfl | rfl <;> exact breaks_cons rest (by decide)

theorem itemChars_more (item other : Json) (rest : List Json) :
    itemChars (item :: other :: rest) = item.chars ++ ',' :: itemChars (other :: rest) := rfl

theorem ofItems_more (item other : Json) (rest : List Json) :
    ofItems (item :: other :: rest) = ofJson item ++ .comma :: ofItems (other :: rest) := rfl

theorem memberChars_more (key : String) (value : Json) (other : String × Json)
    (rest : List (String × Json)) :
    memberChars ((key, value) :: other :: rest) =
      quote key ++ ':' :: value.chars ++ ',' :: memberChars (other :: rest) := rfl

theorem ofMembers_more (key : String) (value : Json) (other : String × Json)
    (rest : List (String × Json)) :
    ofMembers ((key, value) :: other :: rest) =
      .leaf (.string key) :: .colon :: ofJson value ++ .comma :: ofMembers (other :: rest) := rfl

mutual

/-- The text of a value is read as the tokens of the value. -/
theorem scan_chars (json : Json) (regular : json.isRegular = true) (rest : List Char)
    (breaks : Breaks rest) :
    scan .ready (json.chars ++ rest) = ofJson json ++ scan .ready rest := by
  cases json with
  | null => rfl
  | bool b => cases b <;> rfl
  | number n =>
    rw [chars, scan_numeral n (by simpa only [isRegular] using regular) rest breaks]
    rfl
  | string text =>
    rw [chars, scan_quote]
    rfl
  | array items =>
    have closing : Breaks (']' :: rest) := breaks_closing (by decide) rest
    have inner := scan_itemChars items (by simpa only [isRegular] using regular) _ closing
    rw [chars, ofJson]
    simp only [List.cons_append, List.append_assoc, List.nil_append]
    exact congrArg (List.cons _) inner
  | object members =>
    have closing : Breaks ('\x7d' :: rest) := breaks_closing (by decide) rest
    have inner := scan_memberChars members (by simpa only [isRegular] using regular) _ closing
    rw [chars, ofJson]
    simp only [List.cons_append, List.append_assoc, List.nil_append]
    exact congrArg (List.cons _) inner

theorem scan_itemChars (items : List Json) (regular : itemsRegular items = true)
    (rest : List Char) (breaks : Breaks rest) :
    scan .ready (itemChars items ++ rest) = ofItems items ++ scan .ready rest := by
  match items with
  | [] => rfl
  | [item] =>
    rw [itemsRegular, itemsRegular, Bool.and_true] at regular
    exact scan_chars item regular rest breaks
  | item :: other :: items =>
    rw [itemsRegular, Bool.and_eq_true] at regular
    have comma : Breaks (',' :: (itemChars (other :: items) ++ rest)) :=
      breaks_closing (by decide) _
    have later := scan_itemChars (other :: items) regular.2 rest breaks
    rw [itemChars_more, ofItems_more, List.append_assoc, List.append_assoc, List.cons_append,
      scan_chars item regular.1 _ comma]
    exact congrArg (ofJson item ++ ·) (congrArg (List.cons _) later)

theorem scan_memberChars (members : List (String × Json)) (regular : membersRegular members = true)
    (rest : List Char) (breaks : Breaks rest) :
    scan .ready (memberChars members ++ rest) = ofMembers members ++ scan .ready rest := by
  match members with
  | [] => rfl
  | [(key, value)] =>
    rw [membersRegular, membersRegular, Bool.and_true] at regular
    have inner := scan_chars value regular rest breaks
    rw [memberChars, ofMembers, List.append_assoc, List.cons_append, scan_quote]
    exact congrArg (List.cons _) (congrArg (List.cons _) inner)
  | (key, value) :: other :: members =>
    rw [membersRegular, Bool.and_eq_true] at regular
    have comma : Breaks (',' :: (memberChars (other :: members) ++ rest)) :=
      breaks_closing (by decide) _
    have inner := scan_chars value regular.1 _ comma
    have later := scan_memberChars (other :: members) regular.2 rest breaks
    rw [memberChars_more, ofMembers_more]
    simp only [List.append_assoc, List.cons_append, scan_quote]
    refine congrArg (List.cons _) (congrArg (List.cons _) (inner.trans ?_))
    exact congrArg (ofJson value ++ ·) (congrArg (List.cons _) later)

end

theorem ofChars_chars (json : Json) (regular : json.isRegular = true) :
    ofChars json.chars = ofJson json := by
  have read := scan_chars json regular [] breaks_nil
  rw [List.append_nil] at read
  rw [ofChars_eq_scan, read, scan, finish, List.append_nil]

end Token
end Json
end ChatGateway
