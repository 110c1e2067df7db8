import ObliviousRelay.Log.Entry

/-!
# Trust

The root certificates against which gateways are verified. Those that cannot be read are skipped;
without any other one there is no TLS.

- `Trust.ofCertificates` sets up TLS from what the system offers.
-/

namespace ObliviousRelay.Gateway

/-- A root certificate that the system offers. -/
inductive Certificate where
  | root (name : String)
  /-- A file that is no certificate. -/
  | unreadable
  deriving DecidableEq, Repr

/-- Why TLS cannot be set up. -/
inductive TlsFault where
  | noRoots
  deriving DecidableEq, Repr

/-- The wording of a fault. -/
def TlsFault.message : TlsFault → String
  | noRoots => "no system root certificates found"

/-- The root certificates that are trusted. -/
structure Trust where
  roots : List String
  deriving DecidableEq, Repr

namespace Trust

/-- The name of a certificate that can be read. -/
def rootName? : Certificate → Option String
  | .root name => some name
  | .unreadable => none

/-- Trusts the certificates that can be read, of which there must be one. -/
def ofCertificates (cs : List Certificate) : Except TlsFault Trust :=
  match cs.filterMap rootName? with
  | [] => .error .noRoots
  | roots => .ok ⟨roots⟩

/-- What is logged while TLS is set up. -/
def entries (cs : List Certificate) : List Log.Entry :=
  (cs.filter (rootName? · = none)).map (fun _ => Log.Entry.skippedRoot) ++
    match ofCertificates cs with
    | .ok t => [.loadedRoots t.roots.length]
    | .error _ => []

end Trust

end ObliviousRelay.Gateway
