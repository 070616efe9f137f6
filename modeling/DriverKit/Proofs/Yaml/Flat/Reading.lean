import DriverKit.Proofs.Outcome
import DriverKit.Proofs.Yaml.Flat.Tokens
import DriverKit.Proofs.Yaml.Numeral
import DriverKit.Yaml.Reading

/-!
# Reading flat documents

A flat document is read as a map of the values that its lines have as plain texts, put into the map
one after another.
-/

namespace DriverKit.Yaml

/-! ## Nodes -/

/-- The node of a plain text. -/
def plainNode (text : String) : Node := ⟨Tag.ofPlain text, .text text⟩

/-- The nodes of the key and of the value of a line. -/
def Line.nodes (line : Line) : List Node := [plainNode line.key, plainNode line.value]

/-- The numbers of keys and values that lie one behind the other. -/
def entriesFrom (first : Nat) : Nat → List (Nat × Nat)
  | 0 => []
  | count + 1 => (first, first + 1) :: entriesFrom (first + 2) count

/-- The nodes of a flat document: its map, and then what stands on its lines. -/
def flatNodes (lines : List Line) : Nodes :=
  #[⟨.map, .map (entriesFrom 1 lines.length)⟩] ++ (lines.flatMap Line.nodes).toArray

namespace Reader

variable {tokens : List Token} {nodes : Nodes} {anchors : List (String × Nat)}
  {handles : List (String × String)}

theorem node_plain (fuel levels : Nat) (place : Place) (text : String) :
    node (fuel + 1) (levels + 1) place ⟨.scalar text true :: tokens, nodes, anchors, handles⟩
      = .ok (nodes.size, ⟨tokens, nodes.push (plainNode text), anchors, handles⟩) := by
  rw [node]
  rfl

theorem blockEntries_line (line : Line) (fuel levels : Nat) :
    blockEntries (fuel + 4) (levels + 1) ⟨line.tokens ++ tokens, nodes, anchors, handles⟩
      = (blockEntries (fuel + 3) (levels + 1)
          ⟨tokens, (nodes.push (plainNode line.key)).push (plainNode line.value), anchors,
            handles⟩).map fun read => ((nodes.size, nodes.size + 1) :: read.1, read.2) := by
  have key : nodeUnless (fuel + 3) (levels + 1) [.key, .value, .blockEnd] .entry
      ⟨.scalar line.key true :: .value :: .scalar line.value true :: tokens, nodes, anchors,
        handles⟩
        = .ok (nodes.size, ⟨.value :: .scalar line.value true :: tokens,
            nodes.push (plainNode line.key), anchors, handles⟩) := by
    rw [nodeUnless]
    exact node_plain (fuel + 1) levels .entry line.key
  have value : valueUnless (fuel + 3) (levels + 1) [.key, .value, .blockEnd] .entry
      ⟨.value :: .scalar line.value true :: tokens, nodes.push (plainNode line.key), anchors,
        handles⟩
        = .ok (nodes.size + 1, ⟨tokens,
            (nodes.push (plainNode line.key)).push (plainNode line.value), anchors, handles⟩) := by
    rw [valueUnless, ← Array.size_push (plainNode line.key)]
    show nodeUnless (fuel + 2) _ _ _ _ = _
    rw [nodeUnless]
    exact node_plain fuel levels .entry line.value
  rw [blockEntries]
  simp only [Line.tokens, List.cons_append, List.nil_append, peek, advance, List.tail_cons, ok_bind,
    beq_self_eq_true, if_true, key, value]
  cases blockEntries (fuel + 3) (levels + 1) ⟨tokens,
    (nodes.push (plainNode line.key)).push (plainNode line.value), anchors, handles⟩ <;> rfl

theorem blockEntries_lines (lines : List Line) (fuel levels : Nat) :
    blockEntries (lines.length + fuel + 3) (levels + 1)
        ⟨lines.flatMap Line.tokens ++ .blockEnd :: tokens, nodes, anchors, handles⟩
      = .ok (entriesFrom nodes.size lines.length,
          ⟨tokens, nodes ++ (lines.flatMap Line.nodes).toArray, anchors, handles⟩) := by
  induction lines generalizing nodes with
  | nil =>
      rw [blockEntries]
      simp [peek, expect, advance, entriesFrom, pure, Except.pure, bind, Except.bind]
  | cons line rest ih =>
      have steps : (line :: rest).length + fuel + 3 = rest.length + fuel + 4 := by
        simp only [List.length_cons]
        omega
      rw [steps, List.flatMap_cons, List.append_assoc, blockEntries_line, ih]
      simp [Except.map, entriesFrom, Line.nodes]

/-- A block of lines is a map whose entries are read after it. -/
theorem node_lines (lines : List Line) (fuel levels : Nat) :
    node (lines.length + fuel + 4) (levels + 2) .block
        ⟨.blockMapStart :: (lines.flatMap Line.tokens ++ .blockEnd :: tokens), #[], anchors,
          handles⟩
      = .ok (0, ⟨tokens, flatNodes lines, anchors, handles⟩) := by
  have parts : blockEntries (lines.length + fuel + 3) (levels + 1)
      ⟨lines.flatMap Line.tokens ++ .blockEnd :: tokens, #[⟨.map, .map []⟩], anchors, handles⟩
        = _ := blockEntries_lines lines fuel levels
  have filled : Nodes.setContent (#[⟨.map, .map []⟩] ++ (lines.flatMap Line.nodes).toArray) 0
      (.map (entriesFrom 1 lines.length))
        = flatNodes lines := by
    apply Array.ext'
    simp [Nodes.setContent, flatNodes]
  have collected : collect
      ⟨lines.flatMap Line.tokens ++ .blockEnd :: tokens, #[], anchors, handles⟩ ⟨none, none⟩
      ⟨.map, .map []⟩
      (fun reader => mapOf (blockEntries (lines.length + fuel + 3) (levels + 1) reader))
        = .ok (0, ⟨tokens, flatNodes lines, anchors, handles⟩) := by
    rw [← filled]
    simp only [collect, addNamed, add, List.push_toArray, List.nil_append, parts, mapOf, Except.map,
      ok_bind]
    rfl
  rw [node]
  exact collected

end Reader

/-- The entries of a flat document lie one behind the other after its map. -/
theorem graph_flatText {lines : List Line} {levels : Nat} (nonempty : lines ≠ [])
    (plain : ∀ line ∈ lines, line.IsPlain) :
    Graph.read (levels + 2) (flatText lines) = .ok ⟨flatNodes lines, 0⟩ := by
  rw [Graph.read, tokens_flatText nonempty plain]
  have count : (lines.flatMap Line.tokens).length = 4 * lines.length := by
    simp [List.length_flatMap, Line.tokens, Nat.mul_comm]
  have steps : 4 * (Token.blockMapStart ::
      (lines.flatMap Line.tokens ++ [.blockEnd, .streamEnd])).length + 4
        = lines.length + (15 * lines.length + 12) + 4 := by
    simp only [List.length_cons, List.length_append, List.length_nil, count]
    omega
  have root : Reader.rootNode (levels + 2) ⟨.blockMapStart :: (lines.flatMap Line.tokens ++
      [.blockEnd, .streamEnd]), #[], [], Reader.usualHandles⟩
        = .ok (0, ⟨[.streamEnd], flatNodes lines, [], Reader.usualHandles⟩) := by
    rw [Reader.rootNode, Reader.stepBound, steps]
    exact Reader.node_lines lines (15 * lines.length + 12) levels
  rw [Reader.document]
  simp only [Reader.peek, ok_bind, root]
  rfl

/-! ## Values -/

theorem Tag.hasTexts_of_readText {tag : Tag} {text : String} {value : Scalar}
    (read : tag.readText text = .ok value) : tag.hasTexts = true := by
  cases tag <;> first | rfl | cases read

/-- A word is read as a value that needs no origin. -/
structure ReadsWord (word : String) (value : Scalar) : Prop where
  isRead : readPlain word = .ok value
  proper : value ≠ .real .nan

/-- A line is read as a field. -/
structure Line.Reads (line : Line) (field : Scalar × Scalar) : Prop where
  key : ReadsWord line.key field.1
  value : ReadsWord line.value field.2

theorem nameOrigin_of_ne {value : Scalar} (proper : value ≠ .real .nan) (number : Nat) :
    nameOrigin number value = value := by
  unfold nameOrigin
  split
  · exact absurd rfl proper
  · rfl

namespace Nodes

theorem scalar_plainNode {nodes : Nodes} {number : Nat} {word : String} {value : Scalar}
    (here : nodes[number]? = some (plainNode word)) (reads : ReadsWord word value) :
    nodes.scalar number (plainNode word) = .ok value := by
  have texts : (plainNode word).tag.hasTexts = true := Tag.hasTexts_of_readText reads.isRead
  have text : nodes.text (nodes.size + 1) number = .ok word := by
    simp only [Nodes.text, content?, here, Option.map_some, plainNode]
  have named : ((plainNode word).tag.readText word).bind
      (fun value => .ok (nameOrigin number value)) = .ok value := by
    rw [show (plainNode word).tag.readText word = .ok value from reads.isRead]
    exact congrArg Except.ok (nameOrigin_of_ne reads.proper number)
  unfold Nodes.scalar
  simp only [texts, Bool.not_true, Bool.false_eq_true, if_false, text, ok_bind]
  exact named

end Nodes

/-- The nodes of lines are some of the nodes of a document, one behind the other. -/
def HasLines (nodes : Nodes) (first : Nat) (lines : List Line) : Prop :=
  nodes.toList.drop first = lines.flatMap Line.nodes

theorem HasLines.cons {nodes : Nodes} {first : Nat} {line : Line} {rest : List Line}
    (has : HasLines nodes first (line :: rest)) :
    nodes[first]? = some (plainNode line.key) ∧ nodes[first + 1]? = some (plainNode line.value) ∧
      HasLines nodes (first + 2) rest := by
  have front : ∀ offset : Nat,
      nodes[first + offset]? = ((line :: rest).flatMap Line.nodes)[offset]? := by
    intro offset
    rw [← has, List.getElem?_drop, Array.getElem?_toList]
  refine ⟨front 0, front 1, ?_⟩
  rw [HasLines, ← List.drop_drop, has]
  rfl

theorem hasLines_flatNodes (lines : List Line) : HasLines (flatNodes lines) 1 lines := by
  simp [HasLines, flatNodes]

theorem flatNodes_zero (lines : List Line) :
    (flatNodes lines)[0]? = some ⟨.map, .map (entriesFrom 1 lines.length)⟩ := by
  simp [flatNodes]

/-! ## Merging -/

theorem takeMerge?_entriesFrom {nodes : Nodes} {first : Nat} {lines : List Line}
    {fields : List (Scalar × Scalar)} (has : HasLines nodes first lines)
    (reads : List.Forall₂ Line.Reads lines fields) :
    nodes.takeMerge? (entriesFrom first lines.length) = none ∧
      nodes.settleKeys (entriesFrom first lines.length) = nodes := by
  induction reads generalizing first with
  | nil => exact ⟨rfl, rfl⟩
  | @cons line field rest others reads _ ih =>
      obtain ⟨isKey, _, hasRest⟩ := has.cons
      obtain ⟨noMerge, noDefault⟩ := ih hasRest
      have texts : (plainNode line.key).tag.hasTexts = true :=
        Tag.hasTexts_of_readText reads.key.isRead
      have untagged : ∀ tag : Tag, tag.hasTexts = false → nodes.hasTag first tag = false := by
        intro tag noTexts
        simp only [Nodes.hasTag, isKey, Option.any_some, beq_eq_false_iff_ne]
        rintro rfl
        exact Bool.noConfusion (texts.symm.trans noTexts)
      constructor
      · simp only [List.length_cons, entriesFrom, Nodes.takeMerge?, untagged .merge rfl,
          Bool.false_eq_true, if_false, noMerge, Option.map_none]
      · simp only [Nodes.settleKeys, List.length_cons, entriesFrom, List.foldl_cons,
          untagged .default rfl, Bool.false_eq_true, if_false]
        exact noDefault

/-- A flat document has no merges. -/
theorem merge_flatNodes {lines : List Line} {fields : List (Scalar × Scalar)}
    (reads : List.Forall₂ Line.Reads lines fields) (merges : Nat) :
    (flatNodes lines).merge merges 0 = .ok (flatNodes lines) := by
  obtain ⟨noMerge, noDefault⟩ := takeMerge?_entriesFrom (hasLines_flatNodes lines) reads
  have entries : ((flatNodes lines).entries? 0).getD [] = entriesFrom 1 lines.length := by
    simp only [Nodes.entries?, Nodes.content?, flatNodes_zero, Option.map_some, Option.getD_some]
  rw [Nodes.merge, Nodes.mergeWithin, entries, noMerge, noDefault]
  rfl

/-! ## Fields -/

/-- Fields put one after another into a map. -/
def putAll {α : Type} (before fields : List (Scalar × α)) : List (Scalar × α) :=
  fields.foldl (fun before field => field.1.put field.2 before) before

/-- A field with its value as a part of something else. -/
def mapValue {α β : Type} (f : α → β) (field : Scalar × α) : Scalar × β :=
  (field.1, f field.2)

theorem put_map {α β : Type} (f : α → β) (key : Scalar) (value : α) (before : List (Scalar × α)) :
    key.put (f value) (before.map (mapValue f))
      = (key.put value before).map (mapValue f) := by
  induction before with
  | nil => rfl
  | cons entry rest ih =>
      simp only [List.map_cons, Scalar.put, ih]
      by_cases same : entry.1.same key = true
      · rw [if_pos same]
        exact if_pos same
      · rw [if_neg same]
        exact if_neg same

theorem putAll_map {α β : Type} (f : α → β) (before fields : List (Scalar × α)) :
    putAll (before.map (mapValue f)) (fields.map (mapValue f))
      = (putAll before fields).map (mapValue f) := by
  induction fields generalizing before with
  | nil => rfl
  | cons field rest ih =>
      have first : putAll (before.map (mapValue f)) ((field :: rest).map (mapValue f))
          = putAll ((field.1.put field.2 before).map (mapValue f))
              (rest.map (mapValue f)) :=
        congrArg (putAll · _) (put_map f field.1 field.2 before)
      exact first.trans (ih _)

namespace Assembly

/-- From a number on the nodes have not become values yet. -/
def IsOpen (made : Array (Option Link)) (first : Nat) : Prop :=
  ∀ number, first ≤ number → (made[number]?).join = none

theorem IsOpen.set {made : Array (Option Link)} {first : Nat} (isOpen : IsOpen made first)
    (link : Option Link) : IsOpen (made.setIfInBounds first link) (first + 1) := by
  intro number after
  rw [Array.getElem?_setIfInBounds_ne (by omega)]
  exact isOpen number (by omega)

theorem emptyCell?_of_hasTexts {tag : Tag} (texts : tag.hasTexts = true) :
    emptyCell? tag = none := by
  cases tag <;> first | rfl | cases texts

theorem take_plainNode {assembly : Assembly} {number : Nat} {word : String} {value : Scalar}
    (isOpen : IsOpen assembly.made number)
    (here : assembly.nodes[number]? = some (plainNode word)) (reads : ReadsWord word value) :
    assembly.take number = .ok (assembly.note number (.scalar value)) := by
  have texts : (plainNode word).tag.hasTexts = true := Tag.hasTexts_of_readText reads.isRead
  have noCell := emptyCell?_of_hasTexts texts
  unfold take
  simp only [isOpen number le_rfl, here, noCell, Nodes.scalar_plainNode here reads, ok_bind]
  rfl

theorem takeEntries_lines {lines : List Line} {fields : List (Scalar × Scalar)}
    (reads : List.Forall₂ Line.Reads lines fields) {assembly : Assembly} {first : Nat}
    (has : HasLines assembly.nodes first lines) (isOpen : IsOpen assembly.made first)
    (before : List (Scalar × Link)) :
    ∃ made, assembly.takeEntries (entriesFrom first lines.length) before
      = .ok (putAll before (fields.map (mapValue .scalar)),
          { assembly with made := made }) := by
  induction reads generalizing assembly first before with
  | nil => exact ⟨assembly.made, rfl⟩
  | @cons line field rest others reads _ ih =>
      obtain ⟨isKey, isValue, hasRest⟩ := has.cons
      set afterKey := (assembly.note first (.scalar field.1)).2 with afterKey_def
      set afterValue := (afterKey.note (first + 1) (.scalar field.2)).2 with afterValue_def
      have keyMade : IsOpen afterKey.made (first + 1) := isOpen.set _
      have valueMade : IsOpen afterValue.made (first + 2) := keyMade.set _
      have named := take_plainNode isOpen isKey reads.key
      have valued := take_plainNode keyMade isValue reads.value
      have hasNext : HasLines afterValue.nodes (first + 2) rest := hasRest
      obtain ⟨made, taken⟩ := ih hasNext valueMade (field.1.put (.scalar field.2) before)
      refine ⟨made, ?_⟩
      rw [List.length_cons, entriesFrom, takeEntries, named, ok_bind]
      show (afterKey.take (first + 1)).bind _ = _
      rw [valued]
      exact taken

theorem fillAll_of_waiting_eq_nil {assembly : Assembly} (done : assembly.waiting = [])
    (rounds : Nat) : fillAll rounds assembly = .ok assembly := by
  cases rounds with
  | zero => rfl
  | succ rounds =>
      rw [fillAll, done]
      rfl

theorem fill_flatNodes {lines : List Line} {fields : List (Scalar × Scalar)}
    (reads : List.Forall₂ Line.Reads lines fields) (assembly : Assembly)
    (sameNodes : assembly.nodes = flatNodes lines) (isOpen : IsOpen assembly.made 1) :
    ∃ made, assembly.fill 0 0 = .ok { assembly with
      made := made
      cells := assembly.cells.setIfInBounds 0
        (.map (putAll [] (fields.map (mapValue .scalar)))) } := by
  have root : assembly.nodes[0]? = some ⟨.map, .map (entriesFrom 1 lines.length)⟩ :=
    sameNodes ▸ flatNodes_zero lines
  have content : assembly.nodes.content? 0 = some (.map (entriesFrom 1 lines.length)) :=
    congrArg (Option.map Node.content) root
  have entries : assembly.nodes.entries? 0 = some (entriesFrom 1 lines.length) := by
    rw [Nodes.entries?, content]
  have merged : assembly.nodes.merge assembly.merges 0 = .ok assembly.nodes := by
    rw [sameNodes]
    exact merge_flatNodes reads assembly.merges
  have has : HasLines assembly.nodes 1 lines := sameNodes ▸ hasLines_flatNodes lines
  obtain ⟨made, taken⟩ := takeEntries_lines reads has isOpen []
  refine ⟨made, ?_⟩
  simp only [fill, root, takeParts, content, mergedEntries, entries, merged, ok_bind,
    Option.getD_some, taken]
  rfl

end Assembly

/-- A map of values without parts is found at once. -/
theorem datum_scalars (fields : List (Scalar × Scalar)) :
    Web.datum #[.map (fields.map (mapValue .scalar))] 0
      = .map (fields.map (mapValue .scalar)) := by
  have parts : (fields.map (mapValue .scalar)).mapM
      (fun entry : Scalar × Link => (entry.2.datum? #[none]).map fun value => (entry.1, value))
        = some (fields.map (mapValue .scalar)) := by
    rw [List.mapM_map]
    exact mapM_eq_some_map fun _ _ => rfl
  have found : (Cell.map (fields.map (mapValue .scalar))).datum? #[none]
      = some (.map (fields.map (mapValue .scalar))) :=
    congrArg (Option.map Datum.map) parts
  have unfolded : Web.unfoldOnce #[.map (fields.map (mapValue .scalar))] #[none]
      = #[some (.map (fields.map (mapValue .scalar)))] := by
    show #[(Cell.map (fields.map (mapValue .scalar))).datum? #[none]] = _
    rw [found]
  show (Web.unfoldWithin #[.map (fields.map (mapValue .scalar))] 0 1 #[none]).getD _ = _
  rw [Web.unfoldWithin, unfolded]
  rfl

theorem datum_flatNodes {lines : List Line} {fields : List (Scalar × Scalar)}
    (reads : List.Forall₂ Line.Reads lines fields) :
    (⟨flatNodes lines, 0⟩ : Graph).datum
      = .ok (.map (putAll [] (fields.map (mapValue .scalar)))) := by
  have root := flatNodes_zero lines
  have size : (flatNodes lines).size = (lines.flatMap Line.nodes).length + 1 := by
    simp [flatNodes, Nat.add_comm]
  have noneMade : Assembly.IsOpen (Array.replicate (flatNodes lines).size none) 0 := by
    intro number _
    rw [Array.getElem?_replicate]
    split <;> rfl
  set start : Assembly := ⟨flatNodes lines, (flatNodes lines).mergeCount,
    (Array.replicate (flatNodes lines).size none).setIfInBounds 0 (some (.cell 0)), #[.map []], []⟩
    with start_def
  obtain ⟨made, filled⟩ :=
    Assembly.fill_flatNodes reads start rfl (noneMade.set (some (.cell 0)))
  have taken : (Assembly.start (flatNodes lines)).take 0
      = .ok (.cell 0, { start with waiting := [(0, 0)] }) := by
    have free : ((Assembly.start (flatNodes lines)).made[0]?).join = none := noneMade 0 le_rfl
    rw [Assembly.take, free]
    simp only [Assembly.start, root]
    rfl
  have all : Assembly.fillAll (flatNodes lines).size { start with waiting := [(0, 0)] } = .ok
      { start with
        made := made
        cells := #[.map (putAll [] (fields.map (mapValue .scalar)))] } := by
    rw [size, Assembly.fillAll]
    show ((start.fill 0 0).bind fun next => .ok next).bind _ = _
    rw [filled]
    exact Assembly.fillAll_of_waiting_eq_nil rfl _
  have put : ∀ {α : Type} (f : Scalar → α), putAll [] (fields.map (mapValue f))
      = (putAll [] fields).map (mapValue f) := fun f => putAll_map f [] fields
  rw [put] at all
  rw [Graph.datum, taken, ok_bind]
  simp only [all, ok_bind]
  rw [put, datum_scalars]
  rfl

/-! ## Documents -/

theorem isAllowed_of_isWordCharacter {c : Char} (inWord : isWordCharacter c = true) :
    isAllowed c = true := by
  have sorts : ((c.isUpper || c.isLower || c.isDigit) || c == '_' || c == '.') = true := inWord
  have printable : 32 ≤ c.toNat ∧ c.toNat ≤ 126 := by
    simp only [Bool.or_eq_true, beq_iff_eq] at sorts
    rcases sorts with (((upper | lower) | digit) | rfl) | rfl
    · have range : 65 ≤ c.toNat ∧ c.toNat ≤ 90 := of_decide_eq_true upper
      omega
    · obtain ⟨low, high⟩ := Bool.and_eq_true_iff.mp lower
      have least : 97 ≤ c.toNat := of_decide_eq_true low
      have greatest : c.toNat ≤ 122 := of_decide_eq_true high
      omega
    · have range : 48 ≤ c.toNat ∧ c.toNat ≤ 57 := Char.isDigit_iff_toNat.mp digit
      omega
    · decide
    · decide
  simp only [isAllowed, Bool.or_eq_true, Bool.and_eq_true, decide_eq_true_eq, printable, true_and,
    or_true, true_or]

theorem all_isAllowed_flatText {lines : List Line} (plain : ∀ line ∈ lines, line.IsPlain) :
    (flatText lines).all isAllowed = true := by
  have ofWord : ∀ {word : List Char}, isWord word = true → word.all isAllowed = true :=
    fun isWord => List.all_eq_true.mpr fun c member =>
      isAllowed_of_isWordCharacter (isWordCharacter_of_mem isWord c member)
  rw [flatText, List.all_flatMap, List.all_eq_true]
  intro line member
  obtain ⟨keyWord, valueWord, _⟩ := plain line member
  simp only [Line.written, List.all_append, List.all_cons, ofWord keyWord, ofWord valueWord]
  decide

/-- A flat document is read as the map of the fields that its lines are read as. -/
theorem read_flatText {lines : List Line} {fields : List (Scalar × Scalar)} {levels : Nat}
    (nonempty : lines ≠ []) (plain : ∀ line ∈ lines, line.IsPlain)
    (reads : List.Forall₂ Line.Reads lines fields) :
    Yaml.read (levels + 2) (flatText lines)
      = .ok (.map (putAll [] (fields.map (mapValue .scalar)))) := by
  rw [Yaml.read, all_isAllowed_flatText plain, Bool.not_true, if_neg Bool.false_ne_true,
    graph_flatText nonempty plain, ok_bind, datum_flatNodes reads]

end DriverKit.Yaml
