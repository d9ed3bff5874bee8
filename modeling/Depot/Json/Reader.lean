import Depot.Json.Value

/-!
Reading JSON text from left to right. Two kinds of fault are told apart: the text is not JSON at
that point, or a value is not of the wanted shape; the first one met is the one reported. A reader
takes the remaining characters and gives a value and what follows it.
-/

namespace Depot.Json

inductive ReadFault
  | text
  | shape
deriving DecidableEq, Repr

abbrev Reader (α : Type) := List Char → Except ReadFault (α × List Char)

def skipBlanks : List Char → List Char
  | c :: cs => if c = ' ' ∨ c = '\n' ∨ c = '\t' ∨ c = '\r' then skipBlanks cs else c :: cs
  | [] => []

def expect (word : List Char) : Reader Unit := fun cs =>
  match word with
  | [] => .ok ((), cs)
  | w :: word =>
    match cs with
    | c :: cs => if c = w then expect word cs else .error .text
    | [] => .error .text

def hex4 : Reader Nat
  | a :: b :: c :: d :: cs =>
    match Text.hexValue? a, Text.hexValue? b, Text.hexValue? c, Text.hexValue? d with
    | some a, some b, some c, some d => .ok (((a * 16 + b) * 16 + c) * 16 + d, cs)
    | _, _, _, _ => .error .text
  | _ => .error .text

def escaped? (c : Char) : Option Char :=
  if c = '"' ∨ c = '\\' ∨ c = '/' then some c
  else if c = 'b' then some (Char.ofNat 8)
  else if c = 'f' then some (Char.ofNat 12)
  else if c = 'n' then some '\n'
  else if c = 'r' then some '\r'
  else if c = 't' then some '\t'
  else none

/-- Reads the inside of a string literal up to its closing quote. A code unit above the basic plane
has to come in a pair where the string is kept; in a value that is only skipped it may stand alone.
-/
def stringTail (kept : Bool) : Nat → List Char → Reader String
  | 0, _, _ => .error .text
  | _ + 1, _, [] => .error .text
  | fuel + 1, acc, c :: cs =>
    if c = '"' then .ok (String.ofList acc.reverse, cs)
    else if c.toNat < 32 then .error .text
    else if c ≠ '\\' then stringTail kept fuel (c :: acc) cs
    else
      match cs with
      | [] => .error .text
      | e :: cs =>
        if e ≠ 'u' then
          match escaped? e with
          | some d => stringTail kept fuel (d :: acc) cs
          | none => .error .text
        else
          match hex4 cs with
          | .error f => .error f
          | .ok (unit, cs) =>
            if unit < 0xD800 ∨ 0xDFFF < unit then
              stringTail kept fuel (Char.ofNat unit :: acc) cs
            else if !kept then stringTail kept fuel acc cs
            else if 0xDBFF < unit then .error .text
            else
              match cs with
              | '\\' :: 'u' :: cs =>
                match hex4 cs with
                | .error f => .error f
                | .ok (low, cs) =>
                  if 0xDC00 ≤ low ∧ low ≤ 0xDFFF then
                    let code := 0x10000 + (unit - 0xD800) * 1024 + (low - 0xDC00)
                    stringTail kept fuel (Char.ofNat code :: acc) cs
                  else .error .text
              | _ => .error .text

def stringBody (kept : Bool) : Reader String := fun cs => stringTail kept (cs.length + 1) [] cs

def digitRun (cs : List Char) : List Char × List Char :=
  cs.span (fun c => '0' ≤ c && c ≤ '9')

/-- Reads a number. It is whole if it has neither fraction nor exponent, is not minus zero, and fits
a word of 64 bits. -/
def number : Reader Json := fun cs =>
  let (sign, body) := match cs with
    | '-' :: cs => (['-'], cs)
    | cs => ([], cs)
  let (whole, rest) := digitRun body
  if whole.isEmpty ∨ (whole.length > 1 ∧ whole.head? = some '0') then .error .text
  else
    let (fraction, rest, bad) := match rest with
      | '.' :: r =>
        let (ds, r) := digitRun r
        ('.' :: ds, r, ds.isEmpty)
      | r => ([], r, false)
    let (exponent, rest, bad) := match rest with
      | e :: r =>
        if e = 'e' ∨ e = 'E' then
          let (mark, r) := match r with
            | '+' :: r => (['+'], r)
            | '-' :: r => (['-'], r)
            | r => ([], r)
          let (ds, r) := digitRun r
          (e :: mark ++ ds, r, bad || ds.isEmpty)
        else ([], e :: r, bad)
      | [] => ([], [], bad)
    if bad then .error .text
    else
      let written := String.ofList (sign ++ whole ++ fraction ++ exponent)
      let value := (Text.digits? 0 whole).getD 0
      let isInt := fraction.isEmpty ∧ exponent.isEmpty ∧
        (if sign.isEmpty then value ≤ Text.maxWord64
          else 0 < value ∧ value ≤ Text.maxInt64 + 1)
      if isInt then .ok (.int (if sign.isEmpty then value else -(value : Int)), rest)
      else .ok (.real written, rest)

mutual

/-- Reads any value; `fuel` bounds the number of steps. -/
def valueWith (kept : Bool) (fuel : Nat) (cs : List Char) : Except ReadFault (Json × List Char) :=
  match fuel with
  | 0 => .error .text
  | fuel + 1 =>
    match skipBlanks cs with
    | [] => .error .text
    | '"' :: cs => (stringBody kept cs).map fun (s, cs) => (.str s, cs)
    | '[' :: cs =>
      match skipBlanks cs with
      | ']' :: cs => .ok (.arr [], cs)
      | cs => (itemsWith kept fuel cs).map fun (items, cs) => (.arr items, cs)
    | '{' :: cs =>
      match skipBlanks cs with
      | '}' :: cs => .ok (.obj [], cs)
      | cs => (membersWith kept fuel cs).map fun (members, cs) => (.obj members, cs)
    | 'n' :: cs => (expect "ull".toList cs).map fun (_, cs) => (.null, cs)
    | 't' :: cs => (expect "rue".toList cs).map fun (_, cs) => (.bool true, cs)
    | 'f' :: cs => (expect "alse".toList cs).map fun (_, cs) => (.bool false, cs)
    | cs => number cs

def itemsWith (kept : Bool) (fuel : Nat) (cs : List Char) :
    Except ReadFault (List Json × List Char) :=
  match fuel with
  | 0 => .error .text
  | fuel + 1 =>
    match valueWith kept fuel cs with
    | .error f => .error f
    | .ok (item, cs) =>
      match skipBlanks cs with
      | ',' :: cs => (itemsWith kept fuel cs).map fun (items, cs) => (item :: items, cs)
      | ']' :: cs => .ok ([item], cs)
      | _ => .error .text

def membersWith (kept : Bool) (fuel : Nat) (cs : List Char) :
    Except ReadFault (List (String × Json) × List Char) :=
  match fuel with
  | 0 => .error .text
  | fuel + 1 =>
    match skipBlanks cs with
    | '"' :: cs =>
      match stringBody kept cs with
      | .error f => .error f
      | .ok (key, cs) =>
        match skipBlanks cs with
        | ':' :: cs =>
          match valueWith kept fuel cs with
          | .error f => .error f
          | .ok (value, cs) =>
            match skipBlanks cs with
            | ',' :: cs =>
              (membersWith kept fuel cs).map fun (members, cs) => ((key, value) :: members, cs)
            | '}' :: cs => .ok ([(key, value)], cs)
            | _ => .error .text
        | _ => .error .text
    | _ => .error .text

end

def value : Reader Json := fun cs => valueWith true (2 * cs.length + 4) cs

def skipped : Reader Unit := fun cs =>
  (valueWith false (2 * cs.length + 4) cs).map fun (_, cs) => ((), cs)

def parse? (s : String) : Option Json :=
  match value s.toList with
  | .ok (json, rest) => if skipBlanks rest = [] then some json else none
  | .error _ => none

/-- The fault of a value that is not of the wanted shape: a scalar is read to its end, and so may
turn out to be no JSON at all; an array or object is refused at its first character. -/
def misfit : List Char → ReadFault
  | [] => .text
  | '[' :: _ => .shape
  | '{' :: _ => .shape
  | '"' :: cs => match stringBody true cs with
    | .ok _ => .shape
    | .error f => f
  | 'n' :: cs => match expect "ull".toList cs with
    | .ok _ => .shape
    | .error f => f
  | 't' :: cs => match expect "rue".toList cs with
    | .ok _ => .shape
    | .error f => f
  | 'f' :: cs => match expect "alse".toList cs with
    | .ok _ => .shape
    | .error f => f
  | cs => match number cs with
    | .ok _ => .shape
    | .error f => f

def stringReader : Reader String := fun cs =>
  match skipBlanks cs with
  | '"' :: cs => stringBody true cs
  | cs => .error (misfit cs)

def boolReader : Reader Bool := fun cs =>
  match skipBlanks cs with
  | 't' :: cs => (expect "rue".toList cs).map fun (_, cs) => (true, cs)
  | 'f' :: cs => (expect "alse".toList cs).map fun (_, cs) => (false, cs)
  | cs => .error (misfit cs)

def nullableReader (read : Reader α) : Reader (Option α) := fun cs =>
  match skipBlanks cs with
  | 'n' :: cs => (expect "ull".toList cs).map fun (_, cs) => (none, cs)
  | cs => (read cs).map fun (a, cs) => (some a, cs)

/-- Reads a plain tag: a string, or an object whose one member is `null`. A name that `ofName` does
not know is a fault of shape. -/
def tagReader (ofName : String → Option α) : Reader α := fun cs =>
  match skipBlanks cs with
  | '"' :: cs => named cs
  | '{' :: cs =>
    match skipBlanks cs with
    | '"' :: cs =>
      match named cs with
      | .error f => .error f
      | .ok (a, cs) =>
        match skipBlanks cs with
        | ':' :: cs =>
          match skipBlanks cs with
          | 'n' :: cs =>
            match expect "ull".toList cs with
            | .error f => .error f
            | .ok (_, cs) =>
              match skipBlanks cs with
              | '}' :: cs => .ok (a, cs)
              | _ => .error .text
          | cs => .error (misfit cs)
        | _ => .error .text
    | cs => .error (misfit cs)
  | _ => .error .text
where
  named : Reader α := fun cs =>
    match stringBody true cs with
    | .error f => .error f
    | .ok (name, cs) =>
      match ofName name with
      | some a => .ok (a, cs)
      | none => .error .shape

def listTail (read : Reader α) : Nat → List α → Reader (List α)
  | 0, _, _ => .error .text
  | fuel + 1, acc, cs =>
    match read cs with
    | .error f => .error f
    | .ok (a, cs) =>
      match skipBlanks cs with
      | ']' :: cs => .ok ((a :: acc).reverse, cs)
      | ',' :: cs =>
        match skipBlanks cs with
        | ']' :: _ => .error .text
        | [] => .error .text
        | cs => listTail read fuel (a :: acc) cs
      | _ => .error .text

def listReader (read : Reader α) : Reader (List α) := fun cs =>
  match skipBlanks cs with
  | '[' :: cs =>
    match skipBlanks cs with
    | ']' :: cs => .ok ([], cs)
    | [] => .error .text
    | cs => listTail read (cs.length + 1) [] cs
  | cs => .error (misfit cs)

/-- How a record is read into a draft `σ` and then finished. Members are known by their position in
`names`; `finish` gives nothing where a needed member is missing. -/
structure RecordShape (σ β : Type) where
  names : List String
  start : σ
  given : σ → Nat → Bool
  read : Nat → σ → Reader σ
  finish : σ → Option β
  /-- In the array form, the first `needed` values have to be there. -/
  needed : Nat

namespace RecordShape

variable {σ β : Type} (shape : RecordShape σ β)

def close (draft : σ) (cs : List Char) : Except ReadFault (β × List Char) :=
  match shape.finish draft with
  | some b => .ok (b, cs)
  | none => .error .shape

def member (draft : σ) : Reader σ := fun cs =>
  match cs with
  | '"' :: cs =>
    match stringBody true cs with
    | .error f => .error f
    | .ok (key, cs) =>
      let position := shape.names.findIdx (· == key)
      if position < shape.names.length ∧ shape.given draft position then .error .shape
      else
        match skipBlanks cs with
        | ':' :: cs =>
          if position < shape.names.length then shape.read position draft cs
          else (skipped cs).map fun (_, cs) => (draft, cs)
        | _ => .error .text
  | _ => .error .text

def members : Nat → σ → Reader β
  | 0, _, _ => .error .text
  | fuel + 1, draft, cs =>
    match shape.member draft cs with
    | .error f => .error f
    | .ok (draft, cs) =>
      match skipBlanks cs with
      | '}' :: cs => shape.close draft cs
      | ',' :: cs => members fuel draft (skipBlanks cs)
      | _ => .error .text

def items : List Nat → Bool → σ → Reader β
  | [], _, draft, cs =>
    match shape.close draft cs with
    | .error f => .error f
    | .ok (b, cs) =>
      match skipBlanks cs with
      | ']' :: cs => .ok (b, cs)
      | _ => .error .text
  | position :: rest, first, draft, cs =>
    match skipBlanks cs with
    | ']' :: cs => if position < shape.needed then .error .shape else shape.close draft cs
    | [] => .error .text
    | c :: cs' =>
      let next := if first then some (c :: cs') else if c = ',' then some (skipBlanks cs') else none
      match next with
      | none => .error .text
      | some [] => .error .text
      | some (']' :: _) => .error .text
      | some cs =>
        match shape.read position draft cs with
        | .error f => .error f
        | .ok (draft, cs) => items rest false draft cs

def reader : Reader β := fun cs =>
  match skipBlanks cs with
  | '[' :: cs => shape.items (List.range shape.names.length) true shape.start cs
  | '{' :: cs =>
    match skipBlanks cs with
    | '}' :: cs => shape.close shape.start cs
    | cs => shape.members (cs.length + 1) shape.start cs
  | cs => .error (misfit cs)

end RecordShape

def readAll (read : Reader α) (cs : List Char) : Except ReadFault α :=
  match read cs with
  | .error f => .error f
  | .ok (a, rest) => if skipBlanks rest = [] then .ok a else .error .text

end Depot.Json
