/-!
# Blocks of markup

A block is an element to be written: a name, attributes, at most one text, and blocks inside it.
`Block.render` lays a block out as a document.
-/

namespace CollectionProfile.Markup

/-- An element to be written. -/
structure Block where
  name : String
  attributes : List (String × String) := []
  /-- The text before the inner blocks. -/
  text : Option String := none
  children : List Block := []
deriving Inhabited

namespace Block

/-- The block that holds only a text. -/
def ofText (name text : String) : Block where
  name
  text := some text

/-- The value of the first attribute with this key. -/
def attribute? (block : Block) (key : String) : Option String :=
  (block.attributes.find? (·.1 = key)).map (·.2)

/-- The first inner block with this name. -/
def child? (block : Block) (name : String) : Option Block := block.children.find? (·.name = name)

/-- A character of text, with the three markup characters written as references. -/
def escapeInText (c : Char) : List Char :=
  if c = '<' then "&lt;".toList
  else if c = '>' then "&gt;".toList
  else if c = '&' then "&amp;".toList
  else [c]

/-- A character of an attribute value; here both quotes are written as references too. -/
def escapeInAttribute (c : Char) : List Char :=
  if c = '\'' then "&apos;".toList
  else if c = '"' then "&quot;".toList
  else escapeInText c

/-- The written form of an attribute, with the space before it. -/
def renderAttribute : String × String → List Char
  | (key, value) =>
    ' ' :: key.toList ++ ['=', '"'] ++ value.toList.flatMap escapeInAttribute ++ ['"']

/-- A line feed and two spaces for every level. -/
def lineBreak (level : Nat) : List Char := '\n' :: List.replicate (2 * level) ' '

mutual

/-- The written form of a block at some level of nesting. A tag stands on a line of its own unless a
text comes right before it. -/
def render (level : Nat) : Block → List Char
  | ⟨name, attributes, none, []⟩ =>
    '<' :: name.toList ++ attributes.flatMap renderAttribute ++ ['/', '>']
  | ⟨name, attributes, text, children⟩ =>
    '<' :: name.toList ++ attributes.flatMap renderAttribute ++ ['>']
      ++ (text.getD "").toList.flatMap escapeInText
      ++ renderInner (level + 1) text.isSome children
      ++ (if children.isEmpty then [] else lineBreak level)
      ++ ['<', '/'] ++ name.toList ++ ['>']

/-- The written form of inner blocks; `afterText` says that a text comes right before them. -/
def renderInner (level : Nat) (afterText : Bool) : List Block → List Char
  | [] => []
  | child :: rest =>
    (if afterText then [] else lineBreak level) ++ render level child
      ++ renderInner level false rest

end

/-- The declaration that opens a document. -/
def declaration : List Char := "<?xml version=\"1.0\" encoding=\"UTF-8\"?>".toList

/-- The document whose root is the block. -/
def document (block : Block) : List Char := declaration ++ lineBreak 0 ++ block.render 0

end Block

end CollectionProfile.Markup
