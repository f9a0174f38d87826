/-!
The tree of a page: elements with attributes, and text. Comments are left out, and so is what a name
belongs to; nothing that is read from a page depends on them.
-/
namespace IssueFeed.Html

inductive Node where
  | text (content : String)
  | element (name : String) (attributes : List (String × String)) (children : List Node)

structure Element where
  name : String
  attributes : List (String × String)
  children : List Node

def Element.attribute? (element : Element) (name : String) : Option String :=
  element.attributes.lookup name

def Node.element? : Node → Option Element
  | .text _ => none
  | .element name attributes children => some ⟨name, attributes, children⟩

def Element.childElements (element : Element) : List Element :=
  element.children.filterMap Node.element?

mutual

/-- The text of a node and of all below it. -/
def Node.allText : Node → String
  | .text content => content
  | .element _ _ children => textOf children

def textOf : List Node → String
  | [] => ""
  | node :: rest => node.allText ++ textOf rest

end

mutual

/-- A node and all below it, as far as they are elements, each before those below it. -/
def Node.elements : Node → List Element
  | .text _ => []
  | .element name attributes children => ⟨name, attributes, children⟩ :: elementsOf children

def elementsOf : List Node → List Element
  | [] => []
  | node :: rest => node.elements ++ elementsOf rest

end

def Element.text (element : Element) : String :=
  textOf element.children

/-- The elements below an element, each before those below it. -/
def Element.descendants (element : Element) : List Element :=
  elementsOf element.children

/-- A page: its elements in the order in which reading made them, each with the tree below it. -/
structure Document where
  elements : List Element

end IssueFeed.Html
