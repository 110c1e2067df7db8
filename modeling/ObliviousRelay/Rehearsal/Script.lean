import ObliviousRelay.Http.Field
import ObliviousRelay.Http.Status

/-!
# Scripts

What a gateway does with the requests that it receives, one act after the other. An act may wait for
a gate, and the gateway may hang up a while after it.

- `Act.written` is what an act writes to the connection, and what the gateway does then.
-/

namespace ObliviousRelay.Rehearsal

/-- A reply that is written out. -/
structure ScriptedReply where
  status : Http.Status := .ok
  contentType : Option String := some "message/ohttp-res"
  /-- More fields, after the content type. -/
  fields : List (String × ByteArray) := []
  body : ByteArray := .empty
  chunked : Bool := false
  /-- So many more bytes are announced than are sent. -/
  missing : Nat := 0
  /-- After the reply the gateway neither sends nor reads nor hangs up. -/
  stalls : Bool := false

/-- What a gateway does with a request. -/
inductive Deed where
  /-- It sends the body back as an encapsulated response. -/
  | echo
  | reply (r : ScriptedReply)
  /-- It never answers. -/
  | hang
  /-- It hangs up. -/
  | drop
  /-- It writes bytes as they are. -/
  | raw (bytes : ByteArray)

/-- A deed, the gate that it waits for, and whether the gateway hangs up a while after it. -/
structure Act where
  deed : Deed := .echo
  gate : Option String := none
  closesAfter : Bool := false

instance : Inhabited Act := ⟨{}⟩

/-- What a gateway does after it has written something. -/
inductive Aftermath where
  /-- It waits for the next request. -/
  | listens
  /-- It neither reads nor hangs up. -/
  | stalls
  | hangsUp
  deriving DecidableEq, Repr

/-- What is written to a connection, and what is done then. -/
structure Written where
  bytes : ByteArray
  aftermath : Aftermath

namespace ScriptedReply

/-- A line of a head. -/
def line (s : String) : ByteArray := (s ++ "\r\n").toUTF8

/-- A header field. -/
def fieldLine (name : String) (value : ByteArray) : ByteArray :=
  (name ++ ": ").toUTF8 ++ value ++ "\r\n".toUTF8

/-- A number in base 16. -/
def hexText (n : Nat) : String := String.ofList (Nat.toDigits 16 n)

/-- A body in one chunk, and the end of chunks. -/
def chunks (body : ByteArray) : ByteArray :=
  (if body.isEmpty then .empty else line (hexText body.size) ++ body ++ line "") ++
    line "0" ++ line ""

/-- The bytes of a reply. -/
def bytes (r : ScriptedReply) : ByteArray :=
  let type := match r.contentType with
    | some t => fieldLine "Content-Type" t.toUTF8
    | none => .empty
  let fields := r.fields.foldl (fun acc (name, value) => acc ++ fieldLine name value) .empty
  let head := line ("HTTP/1.1 " ++ toString r.status.code ++ " Scripted") ++ type ++ fields
  if r.chunked then
    head ++ line "Transfer-Encoding: chunked" ++ line "" ++ chunks r.body
  else
    head ++ line ("Content-Length: " ++ toString (r.body.size + r.missing)) ++ line "" ++ r.body

end ScriptedReply

namespace Act

/-- The act for the request of a number: the last one repeats, and where there is none requests are
echoed. -/
def ofScript (script : List Act) (n : Nat) : Act :=
  match script[n]? with
  | some a => a
  | none => script.getLast?.getD {}

/-- What is written for a request, if there is an end to the waiting. -/
def written (a : Act) (request : ByteArray) : Option Written :=
  match a.deed with
  | .echo => some ⟨({ body := request } : ScriptedReply).bytes, .listens⟩
  | .reply r => some ⟨r.bytes,
      if r.stalls then .stalls else if 0 < r.missing then .hangsUp else .listens⟩
  | .hang => none
  | .drop => some ⟨.empty, .hangsUp⟩
  | .raw bytes => some ⟨bytes, .listens⟩

end Act

end ObliviousRelay.Rehearsal
