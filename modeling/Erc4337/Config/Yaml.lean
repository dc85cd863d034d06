import Erc4337.Text.Hex
/-!
The YAML of configuration files: block mappings and sequences by indentation, flow sequences
and mappings (which may run over several lines), plain, single- and double-quoted scalars, and
comments. Each node remembers the line it starts on (counted from zero). Refusals carry the
YAML processor's wording and the line it names: a scanner problem names the line it is on, a
parser problem the line index of the token where it stopped.
-/
namespace Erc4337.Yaml

inductive Node where
  | scalar (value : String) (quoted : Bool) (line : Nat)
  | seq (items : List Node) (line : Nat)
  | map (pairs : List (Node × Node)) (line : Nat)
  deriving Inhabited

def Node.line : Node → Nat
  | .scalar _ _ l => l
  | .seq _ l => l
  | .map _ l => l

structure Error where
  line : Nat
  problem : String
  deriving Inhabited

def Error.message (e : Error) : String :=
  "yaml: " ++ (if e.line = 0 then "" else "line " ++ toString e.line ++ ": ") ++ e.problem

structure Line where
  index : Nat
  indent : Nat
  text : List Char
  deriving Inhabited

def isBlank (c : Char) : Bool := c = ' ' || c = '\t'

def stripComment (cs : List Char) : List Char :=
  let rec go : List Char → Option Char → Bool → List Char
    | [], _, _ => []
    | c :: rest, none, afterBlank =>
      if c = '#' ∧ afterBlank then []
      else if c = '"' ∨ c = '\'' then c :: go rest (some c) false
      else c :: go rest none (isBlank c)
    | c :: rest, some q, _ =>
      if c = '\\' ∧ q = '"' then
        match rest with
        | d :: more => c :: d :: go more (some q) false
        | [] => [c]
      else if c = q then c :: go rest none false
      else c :: go rest (some q) false
  go cs none true

def dropTrailingBlanks (cs : List Char) : List Char := (cs.reverse.dropWhile isBlank).reverse

def lines (src : String) : Except Error (List Line) := do
  let raw := (src.splitOn "\n").zipIdx
  let mut out : List Line := []
  for (l, i) in raw do
    let cs := (l.toList.filter (· != '\r'))
    let lead := cs.takeWhile isBlank
    let body := dropTrailingBlanks (stripComment (cs.drop lead.length))
    if body.isEmpty then continue
    if body = ['-', '-', '-'] ∨ body = ['.', '.', '.'] then continue
    if lead.contains '\t' then throw ⟨i + 1, "found character that cannot start any token"⟩
    out := out ++ [⟨i, lead.length, body⟩]
  pure out

def keyColon (cs : List Char) : Option Nat :=
  let rec go : List Char → Nat → Option Char → Nat → Option Nat
    | [], _, _, _ => none
    | c :: rest, i, none, depth =>
      if c = '"' ∨ c = '\'' then (if i = 0 then go rest (i + 1) (some c) depth else go rest (i + 1) none depth)
      else if c = '[' ∨ c = '\x7b' then go rest (i + 1) none (depth + 1)
      else if c = ']' ∨ c = '\x7d' then go rest (i + 1) none (depth - 1)
      else if c = ':' ∧ depth = 0 ∧ (rest.isEmpty ∨ rest.head? = some ' ' ∨ rest.head? = some '\t') then some i
      else go rest (i + 1) none depth
    | c :: rest, i, some q, depth =>
      if c = '\\' ∧ q = '"' then go (rest.drop 1) (i + 2) (some q) depth
      else if c = q then go rest (i + 1) none depth
      else go rest (i + 1) (some q) depth
  termination_by l _ _ _ => l.length
  go cs 0 none 0

def isEntry (cs : List Char) : Bool :=
  match cs with
  | ['-'] => true
  | '-' :: c :: _ => isBlank c
  | _ => false

def doubleQuoted : List Char → Option (List Char × List Char)
  | [] => none
  | '"' :: rest => some ([], rest)
  | '\\' :: e :: rest =>
    let ch : Option Char :=
      if e = 'n' then some '\n' else if e = 't' then some '\t' else if e = 'r' then some '\r'
      else if e = '"' then some '"' else if e = '\\' then some '\\' else if e = '/' then some '/'
      else if e = '0' then some (Char.ofNat 0) else if e = ' ' then some ' ' else none
    match ch with
    | some c => (doubleQuoted rest).map fun (v, r) => (c :: v, r)
    | none =>
      if e = 'x' ∨ e = 'u' ∨ e = 'U' then
        let width := if e = 'x' then 2 else if e = 'u' then 4 else 8
        match Hex.natOf? (rest.take width) with
        | some n =>
          if (rest.take width).length = width then
            (doubleQuoted (rest.drop width)).map fun (v, r) => (Char.ofNat n :: v, r)
          else none
        | none => none
      else none
  | c :: rest => (doubleQuoted rest).map fun (v, r) => (c :: v, r)
termination_by l => l.length

def singleQuoted : List Char → Option (List Char × List Char)
  | [] => none
  | '\'' :: '\'' :: rest => (singleQuoted rest).map fun (v, r) => ('\'' :: v, r)
  | '\'' :: rest => some ([], rest)
  | c :: rest => (singleQuoted rest).map fun (v, r) => (c :: v, r)

def scalarOf (cs : List Char) (line : Nat) : Except Error Node :=
  match cs with
  | '"' :: rest =>
    match doubleQuoted rest with
    | some (v, _) => .ok (.scalar (String.ofList v) true line)
    | none => .error ⟨line + 1, "found unexpected end of stream"⟩
  | '\'' :: rest =>
    match singleQuoted rest with
    | some (v, _) => .ok (.scalar (String.ofList v) true line)
    | none => .error ⟨line + 1, "found unexpected end of stream"⟩
  | _ =>
    if (keyColon cs).isSome then .error ⟨line + 1, "mapping values are not allowed in this context"⟩
    else .ok (.scalar (String.ofList cs) false line)

def splitFlow (cs : List Char) : List (List Char) :=
  let rec go : List Char → Nat → Option Char → List Char → List (List Char)
    | [], _, _, cur => [cur.reverse]
    | c :: rest, depth, none, cur =>
      if c = ',' ∧ depth = 0 then cur.reverse :: go rest depth none []
      else if c = '[' ∨ c = '\x7b' then go rest (depth + 1) none (c :: cur)
      else if c = ']' ∨ c = '\x7d' then go rest (depth - 1) none (c :: cur)
      else if c = '"' ∨ c = '\'' then go rest depth (some c) (c :: cur)
      else go rest depth none (c :: cur)
    | c :: rest, depth, some q, cur =>
      if c = q then go rest depth none (c :: cur) else go rest depth (some q) (c :: cur)
  go cs 0 none []

def trim (cs : List Char) : List Char := dropTrailingBlanks (cs.dropWhile fun c => isBlank c ∨ c = '\n')

def flowNode : Nat → List Char → Nat → Except Error Node
  | 0, _, line => .error ⟨line, "did not find expected node content"⟩
  | fuel + 1, cs, line =>
    let cs := trim cs
    match cs with
    | '[' :: rest =>
      let inner := trim (rest.take (rest.length - 1))
      if inner.isEmpty then .ok (.seq [] line)
      else
        let parts := (splitFlow inner).map trim |>.filter (!·.isEmpty)
        (fun items => .seq items line) <$> parts.mapM (flowNode fuel · line)
    | '\x7b' :: rest =>
      let inner := trim (rest.take (rest.length - 1))
      if inner.isEmpty then .ok (.map [] line)
      else
        let parts := (splitFlow inner).map trim |>.filter (!·.isEmpty)
        (fun ps => .map ps line) <$> parts.mapM fun p =>
          match keyColon p with
          | some i => do
            let k ← flowNode fuel (p.take i) line
            let v ← flowNode fuel (p.drop (i + 1)) line
            pure (k, v)
          | none => do
            let k ← flowNode fuel p line
            pure (k, .scalar "" false line)
    | _ =>
      match cs with
      | '"' :: _ | '\'' :: _ => scalarOf cs line
      | _ => .ok (.scalar (String.ofList cs) false line)

def balance (cs : List Char) : Int :=
  let rec go : List Char → Option Char → Int
    | [], _ => 0
    | c :: rest, none =>
      if c = '[' ∨ c = '\x7b' then go rest none + 1
      else if c = ']' ∨ c = '\x7d' then go rest none - 1
      else if c = '"' ∨ c = '\'' then go rest (some c)
      else go rest none
    | c :: rest, some q => if c = q then go rest none else go rest (some q)
  go cs none

def gatherFlow (endLine : Nat) : List Line → List Char → Except Error (List Char × List Line)
  | ls, acc =>
    if balance acc ≤ 0 then .ok (acc, ls)
    else match ls with
      | [] => .error ⟨endLine, "did not find expected node content"⟩
      | l :: more => gatherFlow endLine more (acc ++ [' '] ++ l.text)

def inlineValue (text : List Char) (line : Nat) (rest : List Line) (minIndent : Nat) (endLine : Nat) :
    Except Error (Node × List Line) :=
  let isFlow := match text with
    | '[' :: _ | '\x7b' :: _ => true
    | _ => false
  if isFlow then
    match gatherFlow endLine rest text with
    | .error e => .error (if e.line = 0 then ⟨line, e.problem⟩ else e)
    | .ok (all, more) => do
      let n ← flowNode (all.length + 1) all line
      pure (n, more)
  else
    let cont := rest.takeWhile (·.indent > minIndent)
    let more := rest.drop cont.length
    match text with
    | '"' :: _ | '\'' :: _ => do
      let n ← scalarOf text line
      pure (n, rest)
    | _ =>
      match cont.find? (fun l => (keyColon l.text).isSome) with
      | some l => .error ⟨l.index + 1, "mapping values are not allowed in this context"⟩
      | none => do
        let n ← scalarOf (text ++ cont.flatMap (fun l => ' ' :: l.text)) line
        pure (n, more)

mutual
def block : Nat → List Line → Nat → Except Error (Node × List Line)
  | 0, _, endLine => .error ⟨endLine, "did not find expected node content"⟩
  | fuel + 1, ls, endLine =>
    match ls with
    | [] => .ok (.scalar "" false endLine, [])
    | l :: rest =>
      if isEntry l.text then sequence fuel l.indent l.index [] ls endLine
      else if (keyColon l.text).isSome then mapping fuel l.indent l.index [] ls endLine
      else inlineValue l.text l.index rest l.indent endLine

def sequence : Nat → Nat → Nat → List Node → List Line → Nat → Except Error (Node × List Line)
  | 0, _, _, _, _, endLine => .error ⟨endLine, "did not find expected node content"⟩
  | fuel + 1, ind, start, acc, ls, endLine =>
    match ls with
    | l :: rest =>
      if l.indent = ind ∧ isEntry l.text then do
        let body := (l.text.drop 1).dropWhile isBlank
        let offset := l.text.length - body.length
        let (item, more) ← entryValue fuel ⟨l.index, ind + offset, body⟩ rest ind endLine
        sequence fuel ind start (acc ++ [item]) more endLine
      else .ok (.seq acc start, ls)
    | [] => .ok (.seq acc start, [])

def mapping : Nat → Nat → Nat → List (Node × Node) → List Line → Nat → Except Error (Node × List Line)
  | 0, _, _, _, _, endLine => .error ⟨endLine, "did not find expected node content"⟩
  | fuel + 1, ind, start, acc, ls, endLine =>
    match ls with
    | l :: rest =>
      if l.indent = ind ∧ !isEntry l.text then
        match keyColon l.text with
        | none => .error ⟨l.index + 1, "could not find expected ':'"⟩
        | some i => do
          let key ← scalarOf (dropTrailingBlanks (l.text.take i)) l.index
          let after := (l.text.drop (i + 1)).dropWhile isBlank
          let (value, more) ←
            if after.isEmpty then
              match rest with
              | n :: _ =>
                if n.indent > ind ∨ (n.indent = ind ∧ isEntry n.text) then block fuel rest endLine
                else pure (.scalar "" false l.index, rest)
              | [] => pure (.scalar "" false l.index, rest)
            else inlineValue after l.index rest ind endLine
          mapping fuel ind start (acc ++ [(key, value)]) more endLine
      else if l.indent > ind then .error ⟨l.index, "did not find expected key"⟩
      else .ok (.map acc start, ls)
    | [] => .ok (.map acc start, [])

def entryValue : Nat → Line → List Line → Nat → Nat → Except Error (Node × List Line)
  | 0, _, _, _, endLine => .error ⟨endLine, "did not find expected node content"⟩
  | fuel + 1, l, rest, ind, endLine =>
    if l.text.isEmpty then
      match rest with
      | n :: _ => if n.indent > ind then block fuel rest endLine else .ok (.scalar "" false l.index, rest)
      | [] => .ok (.scalar "" false l.index, rest)
    else if isEntry l.text ∨ (keyColon l.text).isSome then block fuel (l :: rest) endLine
    else inlineValue l.text l.index rest ind endLine
end

def parse (src : String) : Except Error (Option Node) := do
  let ls ← lines src
  let endLine := (src.toList.filter (· = '\n')).length
  match ls with
  | [] => pure none
  | first :: _ =>
    let (n, rest) ← block (ls.length * 4 + 8) ls endLine
    match rest with
    | [] => pure (some n)
    | l :: _ =>
      if l.indent < first.indent then pure (some n)
      else throw ⟨l.index, if isEntry first.text then "did not find expected '-' indicator" else "did not find expected key"⟩

end Erc4337.Yaml
