import DriverKit.Yaml.Token.Lexer
import Mathlib.Data.List.TakeWhile

/-!
# Tokens of flat documents

A flat document has one line for each entry of a map: a key and a value, both plain words, with a
colon and a space between them. A line is taken apart into four tokens, whatever comes before and
after it; the first line starts the map, and the end of the document ends it.
-/

namespace DriverKit.Yaml

/-! ## Words -/

/-- A character that means nothing but itself wherever it stands behind another one. -/
def isWordCharacter (c : Char) : Bool := c.isAlphanum || c == '_' || c == '.'

/-- A word that needs no marks around it. -/
def isWord : List Char → Bool
  | [] => false
  | c :: rest => c.isAlphanum && rest.all isWordCharacter

theorem ne_of_isWordCharacter {c mark : Char} (inWord : isWordCharacter c = true)
    (outside : isWordCharacter mark = false) : c ≠ mark := by
  rintro rfl
  exact Bool.noConfusion (inWord.symm.trans outside)

theorem isBreak_of_isWordCharacter {c : Char} (inWord : isWordCharacter c = true) :
    isBreak c = false := by
  have apart := fun mark => @ne_of_isWordCharacter c mark inWord
  simp [isBreak, apart '\n' rfl, apart '\r' rfl, apart '\u0085' rfl, apart '\u2028' rfl,
    apart '\u2029' rfl]

theorem isGap_of_isWordCharacter {c : Char} (inWord : isWordCharacter c = true) :
    isGap c = false := by
  have apart := fun mark => @ne_of_isWordCharacter c mark inWord
  simp [isGap, apart ' ' rfl, apart '\t' rfl, isBreak_of_isWordCharacter inWord]

theorem isWordCharacter_of_isAlphanum {c : Char} (plain : c.isAlphanum = true) :
    isWordCharacter c = true := by
  rw [isWordCharacter, plain]
  rfl

theorem isWordCharacter_of_mem {word : List Char} (isWord : isWord word = true) :
    ∀ c ∈ word, isWordCharacter c = true := by
  cases word with
  | nil => cases isWord
  | cons c rest =>
      obtain ⟨first, others⟩ := Bool.and_eq_true_iff.mp isWord
      exact List.forall_mem_cons.mpr
        ⟨isWordCharacter_of_isAlphanum first, List.all_eq_true.mp others⟩

/-- A place from which a line of a flat document starts, or at which such a document ends. -/
def startsLine (rest : List Char) : Prop := ∀ c ∈ rest.head?, c.isAlphanum = true

theorem exists_of_isWord {word : List Char} (isWord : isWord word = true) :
    ∃ c rest, word = c :: rest ∧ c.isAlphanum = true := by
  cases word with
  | nil => cases isWord
  | cons c rest => exact ⟨c, rest, rfl, (Bool.and_eq_true_iff.mp isWord).1⟩

theorem startsLine_of_isWord {word : List Char} (isWord : isWord word = true) (rest : List Char) :
    startsLine (word ++ rest) := by
  obtain ⟨c, others, rfl, plain⟩ := exists_of_isWord isWord
  rintro first ⟨⟩
  exact plain

/-! ## Places -/

namespace Cursor

/-- A character after which the same line goes on. -/
def isInline (c : Char) : Bool := !isBreak c && c != byteOrderMark

theorem isInline_of_isWordCharacter {c : Char} (inWord : isWordCharacter c = true) :
    isInline c = true := by
  simp [isInline, isBreak_of_isWordCharacter inWord, ne_of_isWordCharacter inWord
    (show isWordCharacter byteOrderMark = false from rfl)]

theorem advance_inline {c : Char} (inline : isInline c = true) (rest : List Char)
    (index line column : Nat) :
    (⟨c :: rest, index, line, column⟩ : Cursor).advance
      = ⟨rest, index + 1, line, column + 1⟩ := by
  simp only [isInline, Bool.and_eq_true, Bool.not_eq_true', bne_iff_ne, ne_eq] at inline
  obtain ⟨noBreak, noMark⟩ := inline
  have noReturn : c ≠ '\r' := by
    rintro rfl
    cases noBreak
  simp [advance, noBreak, noReturn, noMark]

theorem advanceBy_inline {run : List Char} (inline : ∀ c ∈ run, isInline c = true)
    (rest : List Char) (index line column : Nat) :
    (⟨run ++ rest, index, line, column⟩ : Cursor).advanceBy run.length
      = ⟨rest, index + run.length, line, column + run.length⟩ := by
  induction run generalizing index column with
  | nil => rfl
  | cons c others ih =>
      obtain ⟨first, inOthers⟩ := List.forall_mem_cons.mp inline
      rw [List.cons_append, List.length_cons, advanceBy, advance_inline first, ih inOthers]
      simp only [Nat.add_assoc, Nat.add_comm 1]

/-- Nothing is skipped where the next character is not of the class. -/
theorem skip_of_not {cursor : Cursor} {test : Char → Bool}
    (stops : ∀ c ∈ cursor.rest.head?, test c = false) : cursor.skip test = cursor := by
  obtain ⟨rest, index, line, column⟩ := cursor
  cases rest with
  | nil => rfl
  | cons c rest =>
      have here : test c = false := stops c rfl
      simp [skip, span, here, advanceBy]

theorem lineBreak_of_not {cursor : Cursor}
    (stops : ∀ c ∈ cursor.rest.head?, isBreak c = false) : cursor.lineBreak = ([], cursor) := by
  obtain ⟨rest, index, line, column⟩ := cursor
  cases rest with
  | nil => rfl
  | cons c rest =>
      have here : isBreak c = false := stops c rfl
      simp only [isBreak, Bool.or_eq_false_iff, beq_eq_false_iff_ne] at here
      obtain ⟨⟨⟨⟨feed, carriage⟩, next⟩, separator⟩, paragraph⟩ := here
      unfold lineBreak
      split
      · rename_i starts
        exact absurd (List.cons.inj starts).1 carriage
      · rename_i starts
        cases starts
        simp [feed, carriage, next, separator, paragraph]
      · rfl

theorem lineBreak_feed (rest : List Char) (index line column : Nat) :
    (⟨'\n' :: rest, index, line, column⟩ : Cursor).lineBreak
      = (['\n'], ⟨rest, index + 1, line + 1, 0⟩) := by
  unfold lineBreak
  split
  · rename_i starts
    exact absurd (List.cons.inj starts).1 (by decide)
  · rename_i starts
    cases starts
    rfl
  · rename_i starts
    cases starts

/-! ## Plain texts -/

theorem plainLength_append {word rest : List Char}
    (inWord : ∀ c ∈ word, isWordCharacter c = true) (stops : plainLength false rest = 0) :
    plainLength false (word ++ rest) = word.length := by
  induction word with
  | nil => exact stops
  | cons c others ih =>
      obtain ⟨first, inOthers⟩ := List.forall_mem_cons.mp inWord
      have noColon : (c == ':') = false := beq_eq_false_iff_ne.mpr (ne_of_isWordCharacter first rfl)
      rw [List.cons_append, plainLength, isGap_of_isWordCharacter first, ih inOthers]
      simp [noColon]

theorem isMarker_of_ne {cursor : Cursor} {c mark : Char} {rest : List Char}
    (here : cursor.rest = c :: rest) (apart : c ≠ mark) : cursor.isMarker mark = false := by
  simp [isMarker, here, apart]

theorem isDocumentMarker_of_startsLine {rest : List Char} (starts : startsLine rest)
    (index line column : Nat) :
    (⟨rest, index, line, column⟩ : Cursor).isDocumentMarker = false := by
  cases rest with
  | nil => rfl
  | cons c rest =>
      have plain : c.isAlphanum = true := starts c rfl
      have apart : ∀ mark : Char, mark.isAlphanum = false → c ≠ mark := by
        rintro mark outside rfl
        exact Bool.noConfusion (plain.symm.trans outside)
      rw [isDocumentMarker, isMarker_of_ne rfl (apart '-' rfl), isMarker_of_ne rfl (apart '.' rfl)]
      rfl

/-- A word is a plain text if no further run belongs to it. -/
theorem plainText_of_word {word rest : List Char} (isWord : isWord word = true)
    (stops : plainLength false rest = 0) {indent : Int} {index line column : Nat}
    {spaces : List Char} {lineEnded : Bool} {after : Cursor}
    (between : (⟨rest, index + word.length, line, column + word.length⟩ : Cursor).plainSpaces
      = (spaces, lineEnded, after))
    (ends : spaces = [] ∨ (after.column : Int) < indent) :
    (⟨word ++ rest, index, line, column⟩ : Cursor).plainText false indent
      = (String.ofList word, lineEnded, after) := by
  have inWord := isWordCharacter_of_mem isWord
  have noRemark : (⟨word ++ rest, index, line, column⟩ : Cursor).at? '#' = false := by
    cases word with
    | nil => cases isWord
    | cons c others =>
        simpa [at?, next] using ne_of_isWordCharacter (inWord c List.mem_cons_self) rfl
  have isWritten : (word.length == 0) = false := by
    cases word with
    | nil => cases isWord
    | cons c others => rfl
  have passed := advanceBy_inline (fun c member => isInline_of_isWordCharacter (inWord c member))
    rest index line column
  have last : (spaces.isEmpty || after.at? '#' ||
      (!false && decide ((after.column : Int) < indent))) = true := by
    rcases ends with rfl | outside
    · rfl
    · simp [outside]
  unfold plainText
  simp only [plainRuns, plainLength_append inWord stops, noRemark, isWritten, Bool.or_self,
    Bool.false_eq_true, if_false, List.take_left, passed, between, last, if_true, List.nil_append]

/-- A word before a colon and a space is a plain text, and the line goes on. -/
theorem plainText_before_colon {word : List Char} (isWord : isWord word = true) (indent : Int)
    (rest : List Char) (index line column : Nat) :
    (⟨word ++ ':' :: ' ' :: rest, index, line, column⟩ : Cursor).plainText false indent
      = (String.ofList word, false,
          ⟨':' :: ' ' :: rest, index + word.length, line, column + word.length⟩) :=
  plainText_of_word isWord rfl rfl (Or.inl rfl)

theorem plainBreaks_of_startsLine {rest : List Char} (starts : startsLine rest) (fuel : Nat)
    (index line column : Nat) :
    plainBreaks (fuel + 1) ⟨rest, index, line, column⟩
      = (some [], ⟨rest, index, line, column⟩) := by
  have noMarker := isDocumentMarker_of_startsLine starts index line column
  have inWord : ∀ c ∈ rest.head?, isWordCharacter c = true :=
    fun c first => isWordCharacter_of_isAlphanum (starts c first)
  have noSpace : (⟨rest, index, line, column⟩ : Cursor).skip (· == ' ')
      = ⟨rest, index, line, column⟩ :=
    skip_of_not fun c first => beq_eq_false_iff_ne.mpr (ne_of_isWordCharacter (inWord c first) rfl)
  have noBreak : (⟨rest, index, line, column⟩ : Cursor).lineBreak
      = ([], ⟨rest, index, line, column⟩) :=
    lineBreak_of_not fun c first => isBreak_of_isWordCharacter (inWord c first)
  simp only [plainBreaks, noMarker, Bool.false_eq_true, if_false, noSpace, noBreak]

/-- A word at the end of a line is a plain text if the next line is not indented. -/
theorem plainText_before_feed {word : List Char} (isWord : isWord word = true)
    {rest : List Char} (starts : startsLine rest) (index line column : Nat) :
    (⟨word ++ '\n' :: rest, index, line, column⟩ : Cursor).plainText false 1
      = (String.ofList word, true, ⟨rest, index + word.length + 1, line + 1, 0⟩) := by
  have noSpace : (⟨'\n' :: rest, index + word.length, line, column + word.length⟩ : Cursor).span
      (· == ' ') = ([], ⟨'\n' :: rest, index + word.length, line, column + word.length⟩) := rfl
  have between : (⟨'\n' :: rest, index + word.length, line, column + word.length⟩
      : Cursor).plainSpaces = ([' '], true, ⟨rest, index + word.length + 1, line + 1, 0⟩) := by
    simp only [plainSpaces, noSpace, lineBreak_feed, plainBreaks_of_startsLine starts]
    rfl
  exact plainText_of_word isWord rfl between (Or.inr Int.one_pos)

end Cursor

/-! ## Steps -/

namespace Lexer

theorem dropStaleKeys_of_fresh {lexer : Lexer}
    (fresh : ∀ entry ∈ lexer.keys, lexer.isStale entry.2 = false) :
    lexer.dropStaleKeys = .ok lexer := by
  have noneStale :
      lexer.keys.any (fun entry => lexer.isStale entry.2 && entry.2.required) = false := by
    rw [List.any_eq_false]
    intro entry member
    rw [fresh entry member]
    exact Bool.noConfusion
  have allKept : lexer.keys.filter (fun entry => !lexer.isStale entry.2) = lexer.keys := by
    rw [List.filter_eq_self]
    intro entry member
    rw [fresh entry member]
    rfl
  rw [dropStaleKeys, noneStale, if_neg Bool.false_ne_true, allKept]

theorem unwind_of_le {lexer : Lexer} {column : Int} (inside : lexer.indent ≤ column) :
    lexer.unwind column = lexer := by
  unfold unwind
  split
  · rfl
  · exact if_pos inside

/-- Goes to what comes after spaces on the same line, if no key gets too old by that and no block
ends there. -/
theorem approach_eq {lexer : Lexer} (spaces : List Char) {rest : List Char}
    {index line column : Nat} (here : lexer.cursor = ⟨spaces ++ rest, index, line, column⟩)
    (blank : ∀ c ∈ spaces, c = ' ')
    (ready : ∀ c ∈ rest.head?, c ≠ ' ' ∧ c ≠ '#' ∧ isBreak c = false)
    (fresh : ∀ entry ∈ lexer.keys, (lexer.moveTo
      ⟨rest, index + spaces.length, line, column + spaces.length⟩).isStale entry.2 = false)
    (inside : lexer.indent ≤ column + spaces.length) :
    lexer.approach
      = .ok (lexer.moveTo ⟨rest, index + spaces.length, line, column + spaces.length⟩) := by
  set after : Cursor := ⟨rest, index + spaces.length, line, column + spaces.length⟩ with after_def
  have skipped : lexer.cursor.skip (· == ' ') = after := by
    have run : (spaces ++ rest).takeWhile (· == ' ') = spaces := by
      rw [List.takeWhile_append_of_pos fun c member => beq_iff_eq.mpr (blank c member)]
      cases rest with
      | nil => simp
      | cons c rest => simp [(ready c rfl).1]
    have inline : ∀ c ∈ spaces, Cursor.isInline c = true := by
      intro c member
      rw [blank c member]
      rfl
    rw [here, Cursor.skip, Cursor.span]
    simp only [run]
    exact Cursor.advanceBy_inline inline rest index line column
  have noRemark : after.at? '#' = false := by
    cases rest with
    | nil => rfl
    | cons c rest => simpa [Cursor.at?, Cursor.next, after_def] using (ready c rfl).2.1
  have noBreak : after.lineBreak = ([], after) :=
    Cursor.lineBreak_of_not fun c first => (ready c first).2.2
  have passed : lexer.skipToToken (lexer.cursor.rest.length + 1) = lexer.moveTo after := by
    simp only [skipToToken, skipped, noRemark, Bool.false_eq_true, if_false, noBreak]
  unfold approach
  rw [passed, dropStaleKeys_of_fresh fresh]
  exact congrArg Except.ok (unwind_of_le inside)

theorem ready_of_startsLine {rest : List Char} (starts : startsLine rest) :
    ∀ c ∈ rest.head?, c ≠ ' ' ∧ c ≠ '#' ∧ isBreak c = false := by
  intro c first
  have inWord := isWordCharacter_of_isAlphanum (starts c first)
  exact ⟨ne_of_isWordCharacter inWord rfl, ne_of_isWordCharacter inWord rfl,
    isBreak_of_isWordCharacter inWord⟩

/-- A step that takes a character comes before the rest of the run. -/
theorem run_of_fetch {lexer next after : Lexer} {c : Char} (approached : lexer.approach = .ok next)
    (comes : next.cursor.next = some c) (fetched : next.fetch c = .ok after) (fuel : Nat) :
    run (fuel + 1) lexer = run fuel after := by
  rw [run]
  simp only [approached, Except.bind, bind, comes, fetched, pure, Except.pure]

theorem isOneOf_of_isWordCharacter {c : Char} (inWord : isWordCharacter c = true)
    {characters : String} (outside : characters.toList.all (!isWordCharacter ·) = true) :
    isOneOf characters c = false := by
  rw [isOneOf, ← Bool.not_eq_true, List.contains_iff_mem]
  intro member
  have noWord := List.all_eq_true.mp outside c member
  rw [inWord] at noWord
  cases noWord

/-- At a letter or digit a plain text starts. -/
theorem fetch_eq_fetchPlain {lexer : Lexer} {c : Char} {rest : List Char}
    (plain : c.isAlphanum = true) (here : lexer.cursor.rest = c :: rest) :
    lexer.fetch c = lexer.fetchPlain := by
  have inWord := isWordCharacter_of_isAlphanum plain
  have apart : ∀ mark : Char, mark.isAlphanum = false → (c == mark) = false := by
    intro mark outside
    rw [beq_eq_false_iff_ne]
    rintro rfl
    exact Bool.noConfusion (plain.symm.trans outside)
  have noStart : lexer.cursor.isMarker '-' = false :=
    Cursor.isMarker_of_ne here (beq_eq_false_iff_ne.mp (apart '-' rfl))
  have noEnd : lexer.cursor.isMarker '.' = false :=
    Cursor.isMarker_of_ne here (beq_eq_false_iff_ne.mp (apart '.' rfl))
  have starts : lexer.mayStartPlain c = true := by
    have noMark : isOneOf "-?:,[]\x7b\x7d#&*!|>'\"%@\x60" c = false :=
      isOneOf_of_isWordCharacter inWord (by decide)
    rw [mayStartPlain, isGap_of_isWordCharacter inWord, noMark]
    rfl
  unfold fetch
  simp only [noStart, noEnd, starts, apart '%' rfl, apart '[' rfl, apart '\x7b' rfl, apart ']' rfl,
    apart '\x7d' rfl, apart ',' rfl, apart '-' rfl, apart '?' rfl, apart ':' rfl, apart '*' rfl,
    apart '&' rfl, apart '!' rfl, apart '|' rfl, apart '>' rfl, apart '\'' rfl, apart '"' rfl,
    Bool.false_and, Bool.and_false, Bool.or_self, Bool.false_eq_true, if_false, if_true]

theorem fetch_eq_fetchValue {lexer : Lexer} {rest : List Char}
    (here : lexer.cursor.rest = ':' :: ' ' :: rest) : lexer.fetch ':' = lexer.fetchValue := by
  have noStart : lexer.cursor.isMarker '-' = false := Cursor.isMarker_of_ne here (by decide)
  have noEnd : lexer.cursor.isMarker '.' = false := Cursor.isMarker_of_ne here (by decide)
  have gapFollows : nextIs isGap (lexer.cursor.ahead 1) = true := by
    rw [Cursor.ahead, here]
    rfl
  unfold fetch
  simp [noStart, noEnd, gapFollows]

end Lexer

/-! ## Lines -/

/-- An entry of a flat document. -/
structure Line where
  key : String
  value : String

namespace Line

def written (line : Line) : List Char :=
  line.key.toList ++ ':' :: ' ' :: (line.value.toList ++ ['\n'])

def tokens (line : Line) : List Token :=
  [.key, .scalar line.key true, .value, .scalar line.value true]

/-- Key and value are words, and the key is not too long for one. -/
structure IsPlain (line : Line) : Prop where
  keyWord : isWord line.key.toList = true
  valueWord : isWord line.value.toList = true
  keyFits : line.key.toList.length ≤ 1024

end Line

namespace Lexer

/-- The state at the start of a line, in the map or where it starts. -/
def atLine (rest : List Char) (index number : Nat) (found : List Token) (begun : Bool) : Lexer where
  cursor := ⟨rest, index, number, 0⟩
  found := found
  count := found.length
  flowLevel := 0
  indent := if begun then 0 else -1
  outerIndents := if begun then [-1] else []
  keyAllowed := true
  keys := []

/-- The state after the key of a line. -/
def afterKey (rest : List Char) (index number column : Nat) (key : String) (found : List Token)
    (begun : Bool) : Lexer where
  cursor := ⟨rest, index + column, number, column⟩
  found := .scalar key true :: found
  count := found.length + 1
  flowLevel := 0
  indent := if begun then 0 else -1
  outerIndents := if begun then [-1] else []
  keyAllowed := false
  keys := [(0, ⟨found.length, begun, index, number, 0⟩)]

/-- The state after the colon of a line. -/
def afterColon (rest : List Char) (index number column : Nat) (found : List Token) : Lexer where
  cursor := ⟨rest, index, number, column⟩
  found := found
  count := found.length
  flowLevel := 0
  indent := 0
  outerIndents := [-1]
  keyAllowed := false
  keys := []

theorem fetchPlain_key {key : List Char} (keyWord : isWord key = true) (rest : List Char)
    (index number : Nat) (found : List Token) (begun : Bool) :
    (atLine (key ++ ':' :: ' ' :: rest) index number found begun).fetchPlain
      = .ok (afterKey (':' :: ' ' :: rest) index number key.length (String.ofList key) found begun)
    := by
  have noted : (atLine (key ++ ':' :: ' ' :: rest) index number found begun).noteKey
      = .ok { atLine (key ++ ':' :: ' ' :: rest) index number found begun with
          keys := [(0, ⟨found.length, begun, index, number, 0⟩)] } := by
    cases begun <;> rfl
  unfold fetchPlain
  rw [noted]
  simp only [Except.bind, bind, atLine, Cursor.plainText_before_colon keyWord, inFlow,
    bne_self_eq_false]
  simp only [pure, Except.pure, allowKey, moveTo, add, afterKey, Nat.zero_add]

theorem fetchValue_colon (rest : List Char) (index number column : Nat) (key : String)
    (found : List Token) (begun : Bool) :
    (afterKey (':' :: rest) index number column key found begun).fetchValue
      = .ok (afterColon rest (index + column + 1) number (column + 1)
          (.value :: .scalar key true :: .key ::
            (if begun then found else .blockMapStart :: found))) := by
  have passed : (⟨':' :: rest, index + column, number, column⟩ : Cursor).advance
      = ⟨rest, index + column + 1, number, column + 1⟩ := rfl
  have two : found.length + 1 + 1 - found.length = 2 := by omega
  cases begun with
  | false =>
      simp [fetchValue, afterKey, afterColon, insert, openBlock, inFlow, allowKey, moveTo, add,
        passed, two, pure, Except.pure]
  | true =>
      simp [fetchValue, afterKey, afterColon, insert, openBlock, inFlow, allowKey, moveTo, add,
        passed, pure, Except.pure]

theorem fetchPlain_value {value : List Char} (valueWord : isWord value = true) {rest : List Char}
    (starts : startsLine rest) (index number column : Nat) (found : List Token) :
    (afterColon (value ++ '\n' :: rest) index number column found).fetchPlain
      = .ok (atLine rest (index + value.length + 1) (number + 1)
          (.scalar (String.ofList value) true :: found) true) := by
  have noted : (afterColon (value ++ '\n' :: rest) index number column found).noteKey
      = .ok (afterColon (value ++ '\n' :: rest) index number column found) := rfl
  have one : (afterColon (value ++ '\n' :: rest) index number column found).indent + 1 = 1 := rfl
  unfold fetchPlain
  rw [noted]
  simp only [Except.bind, bind, one]
  simp only [afterColon, inFlow, bne_self_eq_false, Cursor.plainText_before_feed valueWord starts]
  rfl

/-- A word that comes next is taken as a plain text. -/
theorem run_of_word {lexer next after : Lexer} {word rest : List Char} (isWord : isWord word = true)
    (approached : lexer.approach = .ok next) (comes : next.cursor.rest = word ++ rest)
    (fetched : next.fetchPlain = .ok after) (fuel : Nat) :
    run (fuel + 1) lexer = run fuel after := by
  obtain ⟨c, others, rfl, plain⟩ := exists_of_isWord isWord
  have first : next.cursor.next = some c := by
    rw [Cursor.next, comes]
    rfl
  exact run_of_fetch approached first ((fetch_eq_fetchPlain plain comes).trans fetched) fuel

theorem approach_atLine {rest : List Char} (starts : startsLine rest) (index number : Nat)
    (found : List Token) (begun : Bool) :
    (atLine rest index number found begun).approach
      = .ok (atLine rest index number found begun) := by
  refine approach_eq [] rfl nofun (ready_of_startsLine starts) nofun ?_
  cases begun <;> simp [atLine]

theorem run_key {key : List Char} (keyWord : isWord key = true) (rest : List Char)
    (index number : Nat) (found : List Token) (begun : Bool) (fuel : Nat) :
    run (fuel + 1) (atLine (key ++ ':' :: ' ' :: rest) index number found begun)
      = run fuel (afterKey (':' :: ' ' :: rest) index number key.length (String.ofList key)
          found begun) :=
  run_of_word keyWord (approach_atLine (startsLine_of_isWord keyWord _) index number found begun)
    rfl (fetchPlain_key keyWord rest index number found begun) fuel

theorem run_colon {column : Nat} (fits : column ≤ 1024) (rest : List Char) (index number : Nat)
    (key : String) (found : List Token) (begun : Bool) (fuel : Nat) :
    run (fuel + 1) (afterKey (':' :: ' ' :: rest) index number column key found begun)
      = run fuel (afterColon (' ' :: rest) (index + column + 1) number (column + 1)
          (.value :: .scalar key true :: .key ::
            (if begun then found else .blockMapStart :: found))) := by
  have approached : (afterKey (':' :: ' ' :: rest) index number column key found begun).approach
      = .ok (afterKey (':' :: ' ' :: rest) index number column key found begun) := by
    refine approach_eq [] rfl nofun ?_ ?_ ?_
    · rintro c ⟨⟩
      decide
    · intro entry member
      cases List.mem_singleton.mp member
      simp [isStale, moveTo, fits]
    · cases begun <;> simp [afterKey]
  have fetched := fetchValue_colon (' ' :: rest) index number column key found begun
  exact run_of_fetch approached rfl ((fetch_eq_fetchValue rfl).trans fetched) fuel

theorem run_value {value : List Char} (valueWord : isWord value = true) {rest : List Char}
    (starts : startsLine rest) (index number column : Nat) (found : List Token) (fuel : Nat) :
    run (fuel + 1) (afterColon (' ' :: (value ++ '\n' :: rest)) index number column found)
      = run fuel (atLine rest (index + 1 + value.length + 1) (number + 1)
          (.scalar (String.ofList value) true :: found) true) := by
  have approached : (afterColon (' ' :: (value ++ '\n' :: rest)) index number column found).approach
      = .ok (afterColon (value ++ '\n' :: rest) (index + 1) number (column + 1) found) :=
    approach_eq [' '] rfl (fun c member => List.mem_singleton.mp member)
      (ready_of_startsLine (startsLine_of_isWord valueWord _)) nofun
      (Int.natCast_nonneg (column + 1))
  exact run_of_word valueWord approached rfl
    (fetchPlain_value valueWord starts (index + 1) number (column + 1) found) fuel

/-- A line is taken apart in three steps. -/
theorem run_line {line : Line} (plain : line.IsPlain) {rest : List Char} (starts : startsLine rest)
    (index number : Nat) (found : List Token) (begun : Bool) (fuel : Nat) :
    ∃ after, run (fuel + 3) (atLine (line.written ++ rest) index number found begun)
      = run fuel (atLine rest after (number + 1)
          (line.tokens.reverse ++ (if begun then found else .blockMapStart :: found)) true) := by
  obtain ⟨keyWord, valueWord, keyFits⟩ := plain
  have split : line.written ++ rest
      = line.key.toList ++ ':' :: ' ' :: (line.value.toList ++ '\n' :: rest) := by
    simp [Line.written]
  refine ⟨index + line.key.toList.length + 1 + 1 + line.value.toList.length + 1, ?_⟩
  rw [split, run_key keyWord, run_colon keyFits, run_value valueWord starts, String.ofList_toList,
    String.ofList_toList]
  rfl

/-- At the end of a document its map ends. -/
theorem run_end (index number : Nat) (found : List Token) (fuel : Nat) :
    run (fuel + 1) (atLine [] index number found true) = .streamEnd :: .blockEnd :: found := by
  have empty : startsLine [] := nofun
  have approached := approach_atLine empty index number found true
  rw [run]
  simp only [approached]
  rfl

end Lexer

/-! ## Documents -/

/-- The text of a flat document. -/
def flatText (lines : List Line) : List Char := lines.flatMap Line.written

theorem startsLine_flatText {lines : List Line} (plain : ∀ line ∈ lines, line.IsPlain) :
    startsLine (flatText lines) := by
  cases lines with
  | nil => exact nofun
  | cons line rest =>
      have keyWord := (plain line List.mem_cons_self).keyWord
      rw [flatText, List.flatMap_cons, Line.written, List.append_assoc]
      exact startsLine_of_isWord keyWord _

theorem run_flatText {lines : List Line} (plain : ∀ line ∈ lines, line.IsPlain)
    (index number : Nat) (found : List Token) (fuel : Nat) :
    Lexer.run (3 * lines.length + fuel + 1) (.atLine (flatText lines) index number found true)
      = .streamEnd :: .blockEnd :: ((lines.flatMap Line.tokens).reverse ++ found) := by
  induction lines generalizing index number found with
  | nil => exact Lexer.run_end index number found _
  | cons line rest ih =>
      obtain ⟨here, others⟩ := List.forall_mem_cons.mp plain
      have starts := startsLine_flatText others
      obtain ⟨after, passed⟩ := Lexer.run_line here starts index number found true
        (3 * rest.length + fuel + 1)
      have steps : 3 * (line :: rest).length + fuel + 1 = 3 * rest.length + fuel + 1 + 3 := by
        simp only [List.length_cons]
        omega
      rw [steps, flatText, List.flatMap_cons]
      refine passed.trans ?_
      rw [ih others, List.flatMap_cons, List.reverse_append, List.append_assoc]
      rfl

theorem three_mul_length_le (lines : List Line) : 3 * lines.length ≤ (flatText lines).length := by
  induction lines with
  | nil => exact le_rfl
  | cons line rest ih =>
      rw [flatText, List.flatMap_cons, List.length_append, List.length_cons]
      have least : 3 ≤ line.written.length := by
        simp only [Line.written, List.length_append, List.length_cons, List.length_nil]
        omega
      have others : 3 * rest.length ≤ (rest.flatMap Line.written).length := ih
      omega

/-- The tokens of a flat document with at least one line. -/
theorem tokens_flatText {lines : List Line} (nonempty : lines ≠ [])
    (plain : ∀ line ∈ lines, line.IsPlain) :
    tokens (flatText lines)
      = .blockMapStart :: (lines.flatMap Line.tokens ++ [.blockEnd, .streamEnd]) := by
  have noMark : (Lexer.start (flatText lines)).cursor.at? byteOrderMark = false := by
    rw [Cursor.at?, beq_eq_false_iff_ne]
    intro isMark
    cases startsLine_flatText plain byteOrderMark isMark
  obtain ⟨spare, enough⟩ := Nat.exists_eq_add_of_le (three_mul_length_le lines)
  cases lines with
  | nil => exact absurd rfl nonempty
  | cons line rest =>
      obtain ⟨here, others⟩ := List.forall_mem_cons.mp plain
      have steps : (flatText (line :: rest)).length + 1 = 3 * rest.length + spare + 1 + 3 := by
        rw [enough, List.length_cons]
        omega
      obtain ⟨after, passed⟩ := Lexer.run_line here (startsLine_flatText others) 0 0 [] false
        (3 * rest.length + spare + 1)
      -- Only the first line starts the map, so it is not among the lines of the induction.
      have whole : Lexer.run ((flatText (line :: rest)).length + 1)
          (.start (flatText (line :: rest)))
          = .streamEnd :: .blockEnd :: ((rest.flatMap Line.tokens).reverse ++
              (line.tokens.reverse ++ [.blockMapStart])) := by
        rw [steps]
        exact passed.trans (run_flatText others after 1 _ spare)
      rw [tokens]
      simp only [noMark, Bool.false_eq_true, if_false, whole]
      simp

end DriverKit.Yaml
