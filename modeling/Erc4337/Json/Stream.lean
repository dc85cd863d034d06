import Erc4337.Json.Parse
/-!
Reading the first document of a stream. Only the first value is read: what follows it is
left unread, so text after a complete value is never an error. A stream of blanks has no
document; a stream that ends inside its first value is cut short; a character that cannot
continue the value is reported with its byte offset counted from one, blanks before the value
included.
-/
namespace Erc4337.Json

inductive StreamError where
  | empty
  | truncated
  | malformed (e : SyntaxError) (offset : Nat)
  deriving Inhabited

def StreamError.message : StreamError → String
  | .empty => "EOF"
  | .truncated => "unexpected EOF"
  | .malformed e _ => e.message

def byteCount (cs : List Char) : Nat := (String.ofList cs).utf8ByteSize

structure Leading where
  value : Json
  start : Nat
  stop : Nat
  rest : List Char
  deriving Inhabited

def readFirst (s : String) : Except StreamError Leading :=
  let cs := s.toList
  let body := skipBlank cs
  if body.isEmpty then .error .empty
  else
    match parseValue (cs.length + 1) 0 cs with
    | .ok (v, rest) =>
      .ok { value := v, start := byteCount (cs.take (cs.length - body.length)),
            stop := byteCount (cs.take (cs.length - rest.length)), rest }
    | .error .unexpectedEnd => .error .truncated
    | .error (.invalidChar c ctx left) =>
      .error (.malformed (.invalidChar c ctx left) (byteCount (cs.take (cs.length - left)) + 1))

def itemSpans (pos : Nat) (cs : List Char) : List Leading :=
  go (cs.length + 1) pos cs
where
  go : Nat → Nat → List Char → List Leading
    | 0, _, _ => []
    | fuel + 1, pos, cs =>
      let body := skipBlank cs
      let start := pos + byteCount (cs.take (cs.length - body.length))
      match body with
      | ']' :: _ => []
      | _ =>
        match parseValue (cs.length + 1) 1 body with
        | .error _ => []
        | .ok (v, rest) =>
          let stop := start + byteCount (body.take (body.length - rest.length))
          let item : Leading := { value := v, start, stop, rest }
          match skipBlank rest with
          | ',' :: more =>
            let next := stop + byteCount (rest.take (rest.length - more.length))
            item :: go fuel next more
          | _ => [item]

end Erc4337.Json
