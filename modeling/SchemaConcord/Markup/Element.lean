import SchemaConcord.Markup.Tag

/-!
# Element trees

`Element.read` builds the elements of a markup text from its tags. A void element has no content. A closing tag ends
the innermost open element of its name, together with all that is open inside, and does nothing when no such element
is open; the closing tag of a void element is its own and ends nothing else.
-/

namespace SchemaConcord.Markup

inductive Element where
  | mk (name : String) (attributes : Attributes) (children : List Element)
  deriving Repr

namespace Element

def name : Element → String
  | .mk n _ _ => n

def attributes : Element → Attributes
  | .mk _ a _ => a

def children : Element → List Element
  | .mk _ _ cs => cs

def attribute? (e : Element) (name : String) : Option String := e.attributes.lookup name

mutual

/-- An element and all elements inside it, in the order of their opening tags. -/
def walk : Element → List Element
  | .mk n a cs => .mk n a cs :: walkAll cs

def walkAll : List Element → List Element
  | [] => []
  | e :: rest => e.walk ++ walkAll rest

end

mutual

/-- The elements of a kind that stand in no other element of that kind, in order. -/
def outermost (p : Element → Bool) : Element → List Element
  | .mk n a cs => if p (.mk n a cs) then [.mk n a cs] else outermostIn p cs

def outermostIn (p : Element → Bool) : List Element → List Element
  | [] => []
  | e :: rest => e.outermost p ++ outermostIn p rest

end

def voidNames : List String :=
  ["area", "base", "br", "col", "embed", "hr", "img", "input", "keygen", "link", "menuitem", "meta", "param", "source",
    "track", "wbr", "basefont", "bgsound", "command", "frame", "image", "isindex", "nextid", "spacer"]

end Element

/-! ## Building -/

/-- An element whose closing tag has not been seen; its children are listed last first. -/
structure OpenElement where
  name : String
  attributes : Attributes
  children : List Element

/-- Elements that are done, last first, the open ones from the innermost, and the names of the void elements whose
closing tag may follow. -/
structure Builder where
  done : List Element
  opened : List OpenElement
  void : List String

namespace Builder

def empty : Builder := ⟨[], [], []⟩

def add (b : Builder) (e : Element) : Builder :=
  match b.opened with
  | [] => { b with done := e :: b.done }
  | o :: outer => { b with opened := { o with children := e :: o.children } :: outer }

def pop (b : Builder) : Builder :=
  match b.opened with
  | [] => b
  | o :: outer => { b with opened := outer }.add (.mk o.name o.attributes o.children.reverse)

def popMany : Nat → Builder → Builder
  | 0, b => b
  | n + 1, b => popMany n b.pop

def push (b : Builder) (name : String) (attributes : Attributes) : Builder :=
  { b with opened := ⟨name, attributes, []⟩ :: b.opened }

def close (b : Builder) (name : String) : Builder :=
  match b.opened.findIdx? (·.name == name) with
  | some k => popMany (k + 1) b
  | none => b

/-- A closing tag: one that a void element still waits for is used up by it. -/
def closing (b : Builder) (name : String) : Builder :=
  if b.void.contains name then { b with void := b.void.erase name } else b.close name

def step (b : Builder) : Tag → Builder
  | .opening name attributes =>
    let b := b.push name attributes
    if Element.voidNames.contains name then { b.close name with void := name :: b.void } else b
  | .whole name attributes => (b.push name attributes).closing name
  | .closing name => b.closing name

def finish (b : Builder) : List Element := (popMany b.opened.length b).done.reverse

end Builder

def Element.ofTags (tags : List Tag) : List Element := (tags.foldl Builder.step .empty).finish

def Element.read (markup : String) : Except MarkupFault (List Element) := Element.ofTags <$> Tag.scan markup

end SchemaConcord.Markup
