import SchemaConcord.Text.Class

/-!
# Cutting and joining texts

Operations on lists of characters, each with its form on strings: trimming, splitting at a character or a word,
replacing, and collapsing runs.
-/

namespace SchemaConcord.Text

/-! ## Lists of characters -/

def trimLeft (p : Char → Bool) (cs : List Char) : List Char := cs.dropWhile p

def trimRight (p : Char → Bool) (cs : List Char) : List Char := (cs.reverse.dropWhile p).reverse

def trim (p : Char → Bool) (cs : List Char) : List Char := trimRight p (trimLeft p cs)

/-- The pieces between the characters of a class; a text without one is a single piece. -/
def splitAt (p : Char → Bool) : List Char → List (List Char)
  | [] => [[]]
  | c :: rest =>
    if p c then [] :: splitAt p rest
    else match splitAt p rest with
      | [] => [[c]]
      | piece :: pieces => (c :: piece) :: pieces

def after? (word cs : List Char) : Option (List Char) :=
  match word, cs with
  | [], cs => some cs
  | w :: ws, c :: cs => if w == c then after? ws cs else none
  | _ :: _, [] => none

/-- Replaces every occurrence of `word` from the left, skipping `skip` characters of the last one found. -/
def replaceFrom (word image : List Char) (skip : Nat) : List Char → List Char
  | [] => []
  | c :: rest =>
    match skip with
    | n + 1 => replaceFrom word image n rest
    | 0 =>
      if word.isPrefixOf (c :: rest) then image ++ replaceFrom word image (word.length - 1) rest
      else c :: replaceFrom word image 0 rest

/-- Replaces every occurrence of a non-empty `word` by `image`, from the left and without overlap. -/
def replace (word image cs : List Char) : List Char :=
  if word.isEmpty then cs else replaceFrom word image 0 cs

def occursIn (word : List Char) : List Char → Bool
  | [] => word.isEmpty
  | c :: rest => word.isPrefixOf (c :: rest) || occursIn word rest

/-- The text before the first occurrence of `word` and the text after it. -/
def cutAt? (word : List Char) : List Char → Option (List Char × List Char)
  | [] => if word.isEmpty then some ([], []) else none
  | c :: rest =>
    match after? word (c :: rest) with
    | some tail => some ([], tail)
    | none => (cutAt? word rest).map fun (head, tail) => (c :: head, tail)

/-- Replaces every maximal run of characters of a class by `image`; `inside` says that a run is under way. -/
def squeezeFrom (p : Char → Bool) (image : List Char) (inside : Bool) : List Char → List Char
  | [] => []
  | c :: rest =>
    if p c then (if inside then [] else image) ++ squeezeFrom p image true rest
    else c :: squeezeFrom p image false rest

def squeeze (p : Char → Bool) (image cs : List Char) : List Char := squeezeFrom p image false cs

/-! ## Strings -/

def onChars (f : List Char → List Char) (s : String) : String := String.ofList (f s.toList)

def trimBlanks (s : String) : String := onChars (trim isBlank) s

def collapseBlanks (s : String) : String := onChars (fun cs => trim isBlank (squeeze isBlank [' '] cs)) s

def splitChar (c : Char) (s : String) : List String := (splitAt (· == c) s.toList).map String.ofList

def replaceText (word image s : String) : String := onChars (replace word.toList image.toList) s

def contains (s word : String) : Bool := occursIn word.toList s.toList

def hasHead (s head : String) : Bool := head.toList.isPrefixOf s.toList

def hasTail (s tail : String) : Bool := tail.toList.isSuffixOf s.toList

def hasTailIn (s : String) (tails : List String) : Bool := tails.any (hasTail s)

def dropLast (n : Nat) (s : String) : String := onChars (fun cs => cs.take (cs.length - n)) s

def joinWith (separator : String) (parts : List String) : String := separator.intercalate parts

def textLe (a b : String) : Bool := !decide (b < a)

def sortTexts (l : List String) : List String := l.mergeSort textLe

end SchemaConcord.Text
