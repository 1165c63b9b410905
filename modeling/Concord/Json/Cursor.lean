namespace Concord

/-! A place in a text that is being read: what is left, and where that begins, in lines and in
bytes of the current line.
-/

structure Cursor where
  rest : List Char
  line : Nat
  column : Nat
deriving DecidableEq

/-- The line, from one, and the number of bytes of it up to and including the place meant. -/
structure Position where
  line : Nat
  column : Nat
deriving DecidableEq, Repr

namespace Cursor

def start (text : String) : Cursor := ⟨text.toList, 1, 0⟩

/-- The place behind the first character of what is left. -/
def after (cursor : Cursor) (c : Char) (rest : List Char) : Cursor :=
  if c = '\n' then ⟨rest, cursor.line + 1, 0⟩
  else ⟨rest, cursor.line, cursor.column + c.utf8Size⟩

def next (cursor : Cursor) : Cursor :=
  match cursor.rest with
  | [] => cursor
  | c :: rest => cursor.after c rest

/-- The last byte read. -/
def here (cursor : Cursor) : Position := ⟨cursor.line, cursor.column⟩

/-- The first byte that is left, or the end of the text. -/
def ahead (cursor : Cursor) : Position :=
  match cursor.rest with
  | [] => cursor.here
  | c :: _ => if c = '\n' then ⟨cursor.line + 1, 0⟩ else ⟨cursor.line, cursor.column + 1⟩

/-- The longest prefix of characters in a class, and the place behind it. -/
def span (cursor : Cursor) (p : Char → Bool) : List Char × Cursor :=
  (cursor.rest.takeWhile p,
    (cursor.rest.takeWhile p).foldl (fun place _ => place.next) cursor)

/-- The place a number of bytes on, which may fall inside a character. -/
def bytesOn : Nat → List Char → Cursor → Position
  | _, [], cursor => cursor.here
  | 0, _, cursor => cursor.here
  | bytes + 1, c :: rest, cursor =>
      if c.utf8Size ≤ bytes + 1 then bytesOn (bytes + 1 - c.utf8Size) rest (cursor.after c rest)
      else ⟨cursor.line, cursor.column + (bytes + 1)⟩

def atEnd (cursor : Cursor) : Position :=
  (cursor.rest.foldl (fun place _ => place.next) cursor).here

end Cursor

end Concord
