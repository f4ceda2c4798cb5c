import CollectionProfile.Proofs.Markup.Legal
import CollectionProfile.Proofs.Markup.Tag
import Mathlib.Data.List.Nodup

/-!
# Reading the tokens of a block

`Block.node` says what is read where a block was written: the block's own elements and attributes,
the settled texts, and a text for every line break of the layout. The reader gets there token by
token: attributes wait for the end of their tag, a tag opens an element or is one, a text becomes the
nodes that are left of it once its line ends are settled.
-/

namespace CollectionProfile.Markup

namespace Block

/-- The predicate holds of a block and of all blocks inside it. -/
inductive All (p : Block → Prop) : Block → Prop
  | intro {block : Block} (here : p block) (inside : ∀ child ∈ block.children, All p child) :
    All p block

theorem all_iff {p : Block → Prop} {block : Block} :
    block.All p ↔ p block ∧ ∀ child ∈ block.children, child.All p := by
  constructor
  · rintro ⟨here, inside⟩
    exact ⟨here, inside⟩
  · rintro ⟨here, inside⟩
    exact .intro here inside

theorem All.imp {p q : Block → Prop} {block : Block} (h : block.All p)
    (hpq : ∀ block, p block → q block) : block.All q := by
  induction h with
  | intro here _ ih => exact .intro (hpq _ here) ih

theorem All.and {p q : Block → Prop} {block : Block} (h : block.All p) (h' : block.All q) :
    block.All fun block => p block ∧ q block := by
  induction h with
  | intro here _ ih =>
    obtain ⟨here', inside'⟩ := h'
    exact .intro ⟨here, here'⟩ fun child hchild => ih child hchild (inside' child hchild)

/-- The block's own names can be written without a namespace, and no attribute declares one. -/
structure HasNames (block : Block) : Prop where
  name : IsName block.name
  keys : ∀ pair ∈ block.attributes, IsName pair.1
  noDeclaration : ∀ pair ∈ block.attributes, pair.1 ≠ declarationName
  distinct : (block.attributes.map (·.1)).Nodup

instance (block : Block) : Decidable block.HasNames :=
  decidable_of_iff (IsName block.name ∧ (∀ pair ∈ block.attributes, IsName pair.1)
      ∧ (∀ pair ∈ block.attributes, pair.1 ≠ declarationName)
      ∧ (block.attributes.map (·.1)).Nodup)
    ⟨fun ⟨h₁, h₂, h₃, h₄⟩ => ⟨h₁, h₂, h₃, h₄⟩,
      fun h => ⟨h.name, h.keys, h.noDeclaration, h.distinct⟩⟩

/-- The block's own strings consist of characters that a document may hold. -/
structure HasLegalStrings (block : Block) : Prop where
  values : ∀ pair ∈ block.attributes, IsLegalString pair.2
  text : ∀ text ∈ block.text, IsLegalString text

/-! ### What is read -/

/-- The attributes that are read. -/
def readAttributes (attributes : List (String × String)) : List Attribute :=
  attributes.map fun (key, value) => ⟨⟨none, key⟩, String.ofList (blanked value.toList)⟩

/-- An attribute whose value has been read. -/
def namedValue : String × String → NamedValue
  | (key, value) => ⟨⟨"", key⟩, String.ofList (blanked value.toList)⟩

/-- The nodes that are read where a text was written: none where nothing is left of it. -/
def textNodes (text : List Char) : List Node :=
  match settledText false text with
  | [] => []
  | settled => [.text (String.ofList settled)]

theorem exists_of_mem_textNodes {text : List Char} {node : Node} (h : node ∈ textNodes text) :
    ∃ content, node = .text content := by
  unfold textNodes at h
  split at h
  · simp at h
  · exact ⟨_, List.mem_singleton.1 h⟩

theorem textContents_textNodes (text : List Char) :
    Node.textContents (textNodes text) = String.ofList (settledText false text) := by
  unfold textNodes
  split
  · next h =>
    rw [h]
    rfl
  · simp [Node.textContents, Node.textContent]

/-- The node that is read where the line break before a tag was written, if it was. -/
def breakNodes (level : Nat) (omitted : Bool) : List Node :=
  if omitted then [] else textNodes (lineBreak level)

mutual

/-- The node that is read where a block was written at some level. -/
def node (level : Nat) : Block → Node
  | ⟨name, attributes, text, children⟩ =>
    .element ⟨none, name⟩ (readAttributes attributes)
      (textNodes (text.getD "").toList ++ innerNodes (level + 1) text.isSome children
        ++ breakNodes level children.isEmpty)

/-- The nodes that are read where inner blocks were written. -/
def innerNodes (level : Nat) (afterText : Bool) : List Block → List Node
  | [] => []
  | child :: rest =>
    breakNodes level afterText ++ node level child :: innerNodes level false rest

end

end Block

/-! ### Growing by a tag -/

namespace Growth

/-- No namespace is declared where the growth stands, and no attribute waits. -/
structure IsClear (growth : Growth) : Prop where
  scope : growth.scope = []
  gathered : growth.gathered = {}

/-- The growth with several more nodes. -/
def pushAll (growth : Growth) (nodes : List Node) : Growth :=
  { growth with nodes := nodes.reverse ++ growth.nodes }

theorem IsClear.pushAll {growth : Growth} (h : growth.IsClear) (nodes : List Node) :
    (growth.pushAll nodes).IsClear := ⟨h.scope, h.gathered⟩

@[simp] theorem pushAll_nil (growth : Growth) : growth.pushAll [] = growth := rfl

theorem pushAll_append (growth : Growth) (front back : List Node) :
    growth.pushAll (front ++ back) = (growth.pushAll front).pushAll back := by
  simp [pushAll, List.append_assoc]

theorem IsClear.push {growth : Growth} (h : growth.IsClear) (node : Node) :
    (growth.push node).IsClear := ⟨h.scope, h.gathered⟩

theorem pushAll_cons (growth : Growth) (node : Node) (rest : List Node) :
    growth.pushAll (node :: rest) = (growth.push node).pushAll rest :=
  growth.pushAll_append [node] rest

/-- The growth with several attributes that wait for the end of their tag. -/
def await (growth : Growth) (values : List NamedValue) : Growth :=
  { growth with gathered :=
      { growth.gathered with values := growth.gathered.values ++ values } }

/-- The growth inside an element that is written without a namespace. -/
def inside (growth : Growth) (name : String) (attributes : List Attribute) : Growth :=
  { spine := { written := ⟨"", name⟩, name := ⟨none, name⟩, attributes, scope := [],
               before := growth.nodes } :: growth.spine }

theorem isClear_inside (growth : Growth) (name : String) (attributes : List Attribute) :
    (growth.inside name attributes).IsClear := ⟨rfl, rfl⟩

end Growth

namespace Scope

/-- The attributes found so far on an element, with one more. -/
def addAttribute (scope : Scope) (found : List Attribute) (value : NamedValue) :
    Except Fault (List Attribute) := do
  let name ← scope.attributeName value.name
  ensure (found.all (·.name ≠ name)) (.duplicateAttribute name.localName)
  return found ++ [⟨name, value.value⟩]

/-- The attribute that a value without a qualifier is resolved to. -/
def plainAttribute (value : NamedValue) : Attribute := ⟨⟨none, value.name.localName⟩, value.value⟩

theorem addAttribute_plain {scope : Scope} {found : List Attribute} {value : NamedValue}
    (hplain : value.name.qualifier = "")
    (hnew : ∀ other ∈ found, other.name ≠ ⟨none, value.name.localName⟩) :
    scope.addAttribute found value = .ok (found ++ [plainAttribute value]) := by
  have hensure : ensure (found.all (·.name ≠ ⟨none, value.name.localName⟩))
      (.duplicateAttribute value.name.localName) = .ok () := by
    rw [ensure_eq_ok_iff, List.all_eq_true]
    simpa using hnew
  rw [addAttribute, attributeName, if_pos hplain]
  simp only [bind, Except.bind, hensure]
  rfl

theorem foldlM_addAttribute {scope : Scope} {values : List NamedValue} {found : List Attribute}
    (hplain : ∀ value ∈ values, value.name.qualifier = "")
    (hdistinct : ((found ++ values.map plainAttribute).map (·.name)).Nodup) :
    values.foldlM scope.addAttribute found = .ok (found ++ values.map plainAttribute) := by
  induction values generalizing found with
  | nil =>
    rw [List.map_nil, List.append_nil]
    rfl
  | cons value rest ih =>
    rw [List.forall_mem_cons] at hplain
    have hnew : ∀ other ∈ found, other.name ≠ ⟨none, value.name.localName⟩ := by
      intro other hother
      rw [List.map_append] at hdistinct
      exact (List.nodup_append.1 hdistinct).2.2 _ (List.mem_map_of_mem hother) _
        List.mem_cons_self
    rw [List.foldlM_cons, addAttribute_plain hplain.1 hnew]
    have hsplit : found ++ (value :: rest).map plainAttribute
        = found ++ [plainAttribute value] ++ rest.map plainAttribute := by simp
    rw [hsplit] at hdistinct ⊢
    exact ih hplain.2 hdistinct

/-- Attributes without a qualifier are resolved to their own names, if these are distinct. -/
theorem attributes_plain {scope : Scope} {values : List NamedValue}
    (hplain : ∀ value ∈ values, value.name.qualifier = "")
    (hdistinct : (values.map (·.name.localName)).Nodup) :
    scope.attributes values = .ok (values.map plainAttribute) := by
  have hnames : ((values.map plainAttribute).map (·.name)).Nodup := by
    refine List.Nodup.of_map ExpandedName.localName ?_
    rw [List.map_map, List.map_map]
    exact hdistinct
  exact foldlM_addAttribute hplain hnames

end Scope

/-! ### Steps of the reader -/

/-- A reading of a document's own text, in which a value that holds no reference to an entity is
read as what it was written for. -/
structure Reading.IsOuter (reading : Reading) : Prop where
  inEntity : reading.inEntity = false
  value : ∀ value, reading.value (value.flatMap Block.escapeInAttribute) = pure (Block.blanked value)

theorem Reading.isOuter_ofEntities (entities : Entities) (depth : Nat) :
    (Reading.ofEntities entities depth false).IsOuter := by
  have hscan : ∀ value : List Char, Piece.scanAll (value.flatMap Block.escapeInAttribute)
      = .ok (Piece.ofText Block.isMarkupOrQuote value) :=
    Writes.scanAll_flatMap Block.writes_escapeInAttribute
  constructor
  · cases depth <;> rfl
  · intro value
    cases depth with
    | zero =>
      simp only [ofEntities, Expansion.attributeValue, hscan]
      exact Block.attributePieces_ofText _ value
    | succ depth =>
      simp only [ofEntities, Expansion.attributeValue, hscan]
      exact Block.attributePieces_ofText _ value

section Steps

variable {reading : Reading} {growth : Growth}

theorem takeAttribute_raw (hreading : reading.IsOuter) {pair : String × String}
    (hkey : pair.1 ≠ declarationName) :
    reading.takeAttribute growth (Block.rawAttribute pair)
      = pure (growth.await [Block.namedValue pair]) := by
  have hdeclaration : Scope.isDeclaration ⟨"", pair.1⟩ = false := by
    simp only [Scope.isDeclaration, Bool.or_eq_false_iff, decide_eq_false_iff_not]
    exact ⟨by decide, hkey⟩
  have hgather : growth.gather (Block.namedValue pair)
      = .ok (growth.await [Block.namedValue pair]) := by
    simp [Growth.gather, Gathered.add, Block.namedValue, hdeclaration, Growth.await, bind,
      Except.bind, pure, Except.pure]
  simp only [Reading.takeAttribute, Block.rawAttribute, hreading.value, pure_bind]
  rw [Block.namedValue] at hgather
  rw [hgather]
  rfl

/-- The attributes of a tag wait for its end. -/
theorem foldlM_takeAttribute (hreading : reading.IsOuter) {attributes : List (String × String)}
    (hkeys : ∀ pair ∈ attributes, pair.1 ≠ declarationName) (growth : Growth) :
    (attributes.map Block.rawAttribute).foldlM reading.takeAttribute growth
      = pure (growth.await (attributes.map Block.namedValue)) := by
  induction attributes generalizing growth with
  | nil => simp [Growth.await]
  | cons pair rest ih =>
    rw [List.forall_mem_cons] at hkeys
    rw [List.map_cons, List.foldlM_cons, takeAttribute_raw hreading hkeys.1, pure_bind,
      ih hkeys.2]
    simp [Growth.await]

/-- The waiting attributes become those of the element that is entered. -/
theorem enter_await (hgrowth : growth.IsClear) {block : Block} (hnames : block.HasNames) :
    (growth.await (block.attributes.map Block.namedValue)).enter ⟨"", block.name⟩
      = .ok (growth.inside block.name (Block.readAttributes block.attributes)) := by
  have hattributes : Scope.attributes [] (block.attributes.map Block.namedValue)
      = .ok (Block.readAttributes block.attributes) := by
    have hdistinct : ((block.attributes.map Block.namedValue).map (·.name.localName)).Nodup := by
      rw [List.map_map]
      exact hnames.distinct
    have hplain : ∀ value ∈ block.attributes.map Block.namedValue, value.name.qualifier = "" := by
      intro value hmem
      obtain ⟨pair, -, rfl⟩ := List.mem_map.1 hmem
      rfl
    rw [Scope.attributes_plain hplain hdistinct, List.map_map]
    rfl
  have hscope : (growth.await (block.attributes.map Block.namedValue)).scope = [] := hgrowth.scope
  have hwaiting : (growth.await (block.attributes.map Block.namedValue)).gathered
      = { values := block.attributes.map Block.namedValue } := by
    simp [Growth.await, hgrowth.gathered]
  rw [Growth.enter, hscope, hwaiting]
  simp only [Scope.enter, List.append_nil, hattributes, bind, Except.bind, pure, Except.pure]
  rfl

theorem leave_inside (hgrowth : growth.IsClear) (name : String) (attributes : List Attribute)
    (nodes : List Node) :
    ((growth.inside name attributes).pushAll nodes).leave ⟨"", name⟩
      = .ok (growth.push (.element ⟨none, name⟩ attributes nodes)) := by
  obtain ⟨spine, before, gathered⟩ := growth
  obtain rfl : gathered = {} := hgrowth.gathered
  simp [Growth.leave, Growth.inside, Growth.pushAll, Growth.push, Growth.scope, Scope.enter,
    Scope.attributes, ensure, bind, Except.bind, pure, Except.pure]

theorem take_opening (hreading : reading.IsOuter) (hgrowth : growth.IsClear) {block : Block}
    (hnames : block.HasNames) (hasTag : Bool) :
    reading.take hasTag growth
        (.tag .opening ⟨"", block.name⟩ (block.attributes.map Block.rawAttribute))
      = pure (growth.inside block.name (Block.readAttributes block.attributes)) := by
  simp only [Reading.take, foldlM_takeAttribute hreading hnames.noDeclaration, pure_bind,
    enter_await hgrowth hnames]
  rfl

theorem take_empty (hreading : reading.IsOuter) (hgrowth : growth.IsClear) {block : Block}
    (hnames : block.HasNames) (hasTag : Bool) :
    reading.take hasTag growth
        (.tag .empty ⟨"", block.name⟩ (block.attributes.map Block.rawAttribute))
      = pure (growth.push
          (.element ⟨none, block.name⟩ (Block.readAttributes block.attributes) [])) := by
  have hempty : (growth.await (block.attributes.map Block.namedValue)).pushEmpty ⟨"", block.name⟩
      = .ok (growth.push
          (.element ⟨none, block.name⟩ (Block.readAttributes block.attributes) [])) := by
    rw [Growth.pushEmpty, enter_await hgrowth hnames]
    exact leave_inside hgrowth block.name (Block.readAttributes block.attributes) []
  simp only [Reading.take, foldlM_takeAttribute hreading hnames.noDeclaration, pure_bind, hempty]
  rfl

theorem take_endTag (hgrowth : growth.IsClear) (name : String) (attributes : List Attribute)
    (nodes : List Node) :
    reading.take true ((growth.inside name attributes).pushAll nodes) (.endTag ⟨"", name⟩)
      = pure (growth.push (.element ⟨none, name⟩ attributes nodes)) := by
  simp only [Reading.take, leave_inside hgrowth]
  rfl

theorem take_text (hreading : reading.IsOuter) (text : List Char) (hasTag : Bool) :
    reading.take hasTag growth (.text (text.flatMap Block.escapeInText))
      = pure (growth.pushAll (Block.textNodes text)) := by
  have hscan := Writes.scanAll_flatMap Block.writes_escapeInText text
  simp only [Reading.take, hscan, hreading.inEntity]
  show (Segment.ofPieces false _).foldlM reading.takeSegment growth = _
  rw [Block.ofPieces_ofText, Block.textNodes]
  cases hsettled : Block.settledText false text with
  | nil => rfl
  | cons c rest => simp [Segment.flush, Reading.takeSegment, Growth.pushAll, Growth.push]

/-- One token of content. -/
theorem readContent_of_scan {text rest : List Char} {token : Token} {after : Growth}
    {hasTag : Bool} (hne : text ≠ []) (hscan : Token.scan text = .ok (token, rest))
    (htake : reading.take hasTag growth token = pure after) (inner : Nat) :
    readContent reading inner hasTag growth text
      = reading.goOn inner hasTag token after rest := by
  rw [readContent_eq hne, hscan, Expansion.liftM_ok_bind]
  simp only [htake, pure_bind]

end Steps

end CollectionProfile.Markup
