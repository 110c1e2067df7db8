import ObliviousRelay.Http.Framing

/-!
# Replies as bytes

Reading a reply from the bytes of a connection: a status line, header fields, and a body whose end
is given by its length, by its chunks, or by the end of the connection. Interim replies are skipped.

- `readHead` reads up to the body; it waits for more bytes, finds a fault, or gives the head.
- `readBody` gives the bytes of the body that are there, and how they end.
-/

namespace ObliviousRelay.Http

namespace ReplyReader

/-- Bytes of a connection. -/
abbrev Bytes := List UInt8

/-- Why bytes are no reply. -/
inductive Fault where
  | version
  | status
  | field
  | contentLength
  | transferEncoding
  | size
  deriving DecidableEq, Repr

/-- The wording of a fault. -/
def Fault.message : Fault → String
  | version => "invalid HTTP version parsed"
  | status => "invalid HTTP status-code parsed"
  | field => "invalid HTTP header parsed"
  | contentLength => "invalid content-length parsed"
  | transferEncoding => "unexpected transfer-encoding parsed"
  | size => "message head is too large"

/-- The head of a reply, and the bytes after it. -/
structure Head where
  status : Status
  fields : Fields
  framing : Framing
  /-- Whether the connection can be used again after the body. -/
  persists : Bool
  rest : Bytes
  deriving DecidableEq

/-- What reading a part of a reply comes to. -/
inductive Reading (α : Type) where
  /-- The bytes end too early. -/
  | incomplete
  | fault (f : Fault)
  | found (a : α)

/-! ## Lines -/

/-- The first line and the bytes after it. A carriage return before the line feed is no part of
it. -/
def takeLine? (bytes : Bytes) : Option (Bytes × Bytes) :=
  let line := bytes.takeWhile (· ≠ 10)
  match bytes.drop line.length with
  | [] => none
  | _ :: rest => some (if line.getLast? = some 13 then line.dropLast else line, rest)

/-- Skips empty lines. -/
def skipEmptyLines : Bytes → Bytes
  | 13 :: 10 :: rest => skipEmptyLines rest
  | 10 :: rest => skipEmptyLines rest
  | bytes => bytes

/-- Bytes as characters. -/
def chars (bytes : Bytes) : List Char := bytes.map fun b => Char.ofNat b.toNat

/-- The two versions, up to the last digit. -/
def versionStart : List Char := "HTTP/1.".toList

/-- Whether bytes may begin a reply: as far as they go they are a version. -/
def startsLikeReply (bytes : Bytes) : Bool :=
  let cs := chars (bytes.take 8)
  (cs.take 7).isPrefixOf versionStart &&
    match cs.drop 7 with
    | [] => true
    | c :: _ => c = '0' || c = '1'

/-- A status line: whether the version is the later one, and the status. -/
def readStatusLine (line : Bytes) : Except Fault (Bool × Status) :=
  match chars (line.drop 7) with
  | minor :: ' ' :: a :: b :: c :: more =>
    let separated := match more with
      | [] => true
      | d :: _ => d = ' '
    if separated && (line.drop 12).all isValueByte then
      match (Text.natural? [a, b, c]).bind Status.ofNat? with
      | some status => .ok (minor = '1', status)
      | none => .error .status
    else .error .status
  | _ :: ' ' :: _ => .error .status
  | _ => .error .version

/-- A blank byte within a line. -/
def isBlankByte (b : UInt8) : Bool := b = 32 || b = 9

/-- Bytes without blanks at their ends. -/
def trimBytes (bytes : Bytes) : Bytes :=
  ((bytes.dropWhile isBlankByte).reverse.dropWhile isBlankByte).reverse

/-- A header field. -/
def readField (line : Bytes) : Except Fault Field :=
  let name := line.takeWhile (· ≠ 58)
  match line.drop name.length with
  | [] => .error .field
  | _ :: value =>
    match FieldName.ofText? (String.ofList (chars name)) with
    | none => .error .field
    | some name =>
      if value.all isValueByte then .ok ⟨name, ⟨(trimBytes value).toArray⟩⟩ else .error .field

/-- Header fields up to the empty line, and the bytes after it; at most `room` of them. -/
def readFields (room : Nat) (bytes : Bytes) : Reading (Fields × Bytes) :=
  match takeLine? bytes with
  | none => .incomplete
  | some ([], rest) => .found ([], rest)
  | some (line, rest) =>
    match readField line with
    | .error f => .fault f
    | .ok field =>
      match room with
      | 0 => .fault .size
      | room + 1 =>
        match readFields room rest with
        | .found (fields, rest) => .found (field :: fields, rest)
        | other => other

/-! ## Framing -/

/-- The texts of all fields of a name. -/
def texts (fields : Fields) (name : String) : List String :=
  (fields.filter (·.name.text = name)).map fun f => (valueText? f.value).getD "\x00"

/-- The items of comma-separated lists, in small letters. -/
def items (values : List String) : List String :=
  values.flatMap fun v => (v.splitOn ",").map fun s => Text.lowerCase s.trimAscii.copy

/-- The length that Content-Length fields agree on; none if there are none. -/
def declaredLength (fields : Fields) : Except Fault (Option Nat) :=
  match items (texts fields "content-length") with
  | [] => .ok none
  | v :: vs =>
    match Text.natural? v.toList with
    | some n =>
      if !vs.all (· = v) || Nat.pow 2 64 ≤ n then .error .contentLength
      else if maxBodyLength < n then .error .size
      else .ok (some n)
    | none => .error .contentLength

/-- How the end of the body is told. -/
def framingOf (later : Bool) (status : Status) (fields : Fields) : Except Fault Framing :=
  if status.code = 204 || status.code = 304 || status.code < 200 then .ok (.length 0)
  else
    match items (texts fields "transfer-encoding") with
    | [] => (declaredLength fields).map fun n => match n with
      | some n => .length n
      | none => .untilClose
    | codings =>
      if !later then .error .transferEncoding
      else if codings.getLast? = some "chunked" then .ok .chunked
      else .ok .untilClose

/-- Whether a connection can be used again after a reply. -/
def persistsAfter (later : Bool) (fields : Fields) : Bool :=
  let options := items (texts fields "connection")
  if later then !options.contains "close" else options.contains "keep-alive"

/-- Reads the head of a reply. An interim reply before it is skipped, if there is room for it. -/
def readHead (room : Nat) (bytes : Bytes) : Reading Head :=
  let bytes := skipEmptyLines bytes
  if !startsLikeReply bytes then .fault .version
  else match takeLine? bytes with
    | none => .incomplete
    | some (line, rest) =>
      match readStatusLine line with
      | .error f => .fault f
      | .ok (later, status) =>
        match readFields maxFields rest with
        | .incomplete => .incomplete
        | .fault f => .fault f
        | .found (fields, rest) =>
          if status.code < 200 && status.code ≠ 101 then
            match room with
            | 0 => .incomplete
            | room + 1 => readHead room rest
          else match framingOf later status fields with
            | .error f => .fault f
            | .ok framing =>
              .found { status, fields, framing, rest
                       persists := persistsAfter later fields && status.code ≠ 101 }

/-! ## Bodies -/

/-- How the bytes of a body that are there end. -/
inductive Ending where
  /-- The body is complete, and whether other bytes follow. -/
  | complete (more : Bool)
  /-- More may come. -/
  | unfinished
  /-- The body is broken. -/
  | broken
  deriving DecidableEq, Repr

/-- The bytes of a body that are there, and how they end. -/
structure Body where
  bytes : Bytes
  ending : Ending
  deriving DecidableEq

/-- The end of bytes after which nothing comes if the connection is closed. -/
def cutOff (closed : Bool) : Ending := if closed then .broken else .unfinished

/-- The size that a chunk's first line gives, before any extension. -/
def chunkSize? (line : Bytes) : Option Nat :=
  let digits := (trimBytes (line.takeWhile (· ≠ 59)))
  if digits.isEmpty then none else (Text.baseValue? 16 (chars digits)).filter (· < Nat.pow 2 64)

/-- Reads lines up to an empty one. -/
def skipTrailer (room : Nat) (closed : Bool) (bytes : Bytes) : Ending :=
  match room, takeLine? bytes with
  | _, none => cutOff closed
  | _, some ([], rest) => .complete (!rest.isEmpty)
  | 0, _ => .broken
  | room + 1, some (_, rest) => skipTrailer room closed rest

/-- Reads a chunked body, of at most `room` chunks, behind the bytes read so far. -/
def readChunks (room : Nat) (closed : Bool) (seen : Bytes) (bytes : Bytes) : Body :=
  match takeLine? bytes with
  | none => ⟨seen, cutOff closed⟩
  | some (line, rest) =>
    match chunkSize? line with
    | none => ⟨seen, .broken⟩
    | some 0 => ⟨seen, skipTrailer rest.length closed rest⟩
    | some (n + 1) =>
      let seen := seen ++ rest.take (n + 1)
      match rest.drop (n + 1), room with
      | 13 :: 10 :: rest, room + 1 => readChunks room closed seen rest
      | [], _ => ⟨seen, cutOff closed⟩
      | [13], _ => ⟨seen, cutOff closed⟩
      | _, _ => ⟨seen, .broken⟩

/-- Reads the bytes of a body that are there. -/
def readBody (framing : Framing) (closed : Bool) (bytes : Bytes) : Body :=
  match framing with
  | .length n =>
    if bytes.length < n then ⟨bytes, cutOff closed⟩
    else ⟨bytes.take n, .complete (n < bytes.length)⟩
  | .chunked => readChunks bytes.length closed [] bytes
  | .untilClose => ⟨bytes, if closed then .complete false else .unfinished⟩

end ReplyReader

end ObliviousRelay.Http
