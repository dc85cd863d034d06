import Erc4337.Text.Quote
/-!
Values laid out as composite literals, one field or element per line.

A record prints its type and a brace, then each field as `name: value,` two columns deeper,
then the closing brace at its own depth. A field's value may take several lines; its later lines
keep their own depth. Within a record, the values of consecutive one-line-headed fields line up:
a run of field lines not broken by the inner lines of a value pads every name to the widest name
of the run plus one blank, and to at least four columns. A sequence prints one element per line
the same way, without names; small numbers go sixteen to a line. An empty record or sequence
is its type and `{}`, and a sequence of more than 1024 elements is folded to its type and
`{...}`.
-/
namespace Erc4337.Pretty

inductive Doc where
  | atom (text : String)
  | record (type : String) (fields : List (String × Doc))
  | items (type : String) (elems : List Doc)
  | numbers (type : String) (values : List Nat)
  deriving Inhabited

def foldAbove : Nat := 1024

def blanks (n : Nat) : String := String.ofList (List.replicate n ' ')

def withComma : List String → List String
  | [] => []
  | [l] => [l ++ ","]
  | l :: ls => l :: withComma ls

def pieces (n : Nat) : Nat → List Nat → List (List Nat)
  | 0, _ => []
  | _ + 1, [] => []
  | fuel + 1, vs => vs.take n :: pieces n fuel (vs.drop n)

def numberLines (d : Nat) (values : List Nat) : List String :=
  (pieces 16 values.length values).map fun row =>
    blanks d ++ " ".intercalate (row.map fun v => toString v ++ ",")

def cellOf (line : String) : Option (String × String) :=
  match line.splitOn "\t" with
  | cell :: rest@(_ :: _) => some (cell, "\t".intercalate rest)
  | _ => none

def padRun (run : List (String × String)) : List String :=
  let width := max 4 ((run.map fun (c, _) => c.length + 1).foldl max 0)
  run.map fun (c, rest) => c ++ blanks (width - c.length) ++ rest

def align (lines : List String) : List String :=
  let (done, run) := lines.foldl (fun (done, run) line =>
    match cellOf line with
    | some cell => (done, run ++ [cell])
    | none => (done ++ padRun run ++ [line], [])) ([], [])
  done ++ padRun run

mutual
def lines (d : Nat) : Doc → List String
  | .atom t => [t]
  | .record type [] => [type ++ "\x7b\x7d"]
  | .record type fs => (type ++ "\x7b") :: align (fieldLines (d + 2) fs) ++ [blanks d ++ "\x7d"]
  | .items type [] => [type ++ "\x7b\x7d"]
  | .items type es =>
    if es.length > foldAbove then [type ++ "\x7b...\x7d"]
    else (type ++ "\x7b") :: itemLines (d + 2) es ++ [blanks d ++ "\x7d"]
  | .numbers type [] => [type ++ "\x7b\x7d"]
  | .numbers type vs =>
    if vs.length > foldAbove then [type ++ "\x7b...\x7d"]
    else (type ++ "\x7b") :: numberLines (d + 2) vs ++ [blanks d ++ "\x7d"]

def fieldLines (d : Nat) : List (String × Doc) → List String
  | [] => []
  | (name, v) :: fs =>
    let ls := match lines d v with
      | first :: more => (blanks d ++ name ++ ":\t" ++ first) :: more
      | [] => []
    withComma ls ++ fieldLines d fs

def itemLines (d : Nat) : List Doc → List String
  | [] => []
  | e :: es =>
    let ls := match lines d e with
      | first :: more => (blanks d ++ first) :: more
      | [] => []
    withComma ls ++ itemLines d es
end

def render (doc : Doc) : String := "\n".intercalate (lines 0 doc)

def quoted (s : String) : Doc := .atom (Quote.quote s)

def pointer (type : String) (v : Option String) : Doc :=
  .atom (match v with
    | some t => "&" ++ t
    | none => "(" ++ type ++ ")(nil)")

end Erc4337.Pretty
