import Uringio.Loop.Submitted
import Uringio.Python.Rejected
import Uringio.Registry.Sizes

/-!
# Integers at the boundary

A Python integer has no bounds, a field of a kernel structure has. On its way an integer is read
into a C variable and cast once or twice more, and the casts do not check anything: the parameters
of timers and timeouts are `(int)PyLong_AsLong(obj)`, a port is `(uint16_t)port`, the length of the
data is `(unsigned)len`, and the size of the registry `(unsigned)registry_size`.

Each cast keeps its argument exactly on the range of its type (`longAsInt_eq_iff`,
`ntohs_port_eq_iff`, `CInt.toUnsigned_eq_iff`). What an accepted call handed to the kernel is its
one submission (`Loop.call_submitted`), which says what the fields of its entry are.

Some numbers are not in the entry but behind a pointer of it, and the kernel reads them when it
takes the entry. The frame of `timeout` is gone by then; the frame of `timer` and the block of an
address are there as long as the call is in progress, so they are read as they were written if the
call's own submission takes the entry. What the kernel finds in memory that was given up is a
parameter (`Remains`). So the numbers of a call arrived unchanged exactly if each of them is in its
range, or was read from memory that still holds it (`unchanged_iff_fits`). A registry has as many
slots as was asked for exactly if the size is not negative (`NewRegistry.serves_iff`).
-/

namespace Uringio

/-! ## Addresses -/

/-- `htons` on a little-endian machine. -/
def htons (x : ℕ) : ℕ := x % 2^8 * 2^8 + x / 2^8 % 2^8

/-- `ntohs`. -/
def ntohs (x : ℕ) : ℕ := htons x

/-- What `_serialize_address` writes beside the host: `sin_family` and `sin_port`, or the same
fields of a `sockaddr_in6`. -/
structure Sockaddr where
  /-- The address family. -/
  family : ℤ
  /-- The port, in the order of the network. -/
  port : ℕ
  deriving DecidableEq

namespace PyRequest

/-- The object given for `timeout_params`. -/
def timeoutArg : PyRequest → TimeoutArg
  | .open _ _ _ _ _ tp | .closeFile _ tp | .read _ _ _ tp | .readv _ _ _ _ tp
  | .readvRaw _ _ _ _ tp | .write _ _ _ tp | .writev _ _ _ _ tp | .writevRaw _ _ _ _ tp
  | .fsync _ tp | .fdatasync _ tp | .splice _ _ _ _ _ _ _ tp | .socket _ _ tp | .bind _ _ tp
  | .connect _ _ tp | .listen _ _ tp | .accept _ tp | .closeSocket _ tp | .send _ _ _ tp
  | .recv _ _ _ _ tp | .sendto _ _ _ _ _ tp | .recvfrom _ _ _ _ _ _ _ tp
  | .sendmsg _ _ _ _ _ _ tp | .recvmsg _ _ _ tp => tp
  | .aexitFile _ _ | .aexitSocket _ _ | .timer _ => .absent

/-- The port and the domain of the address that the call serializes, if it does. -/
def address (L : Loop) : PyRequest → Option (ℤ × ℤ)
  | .bind s port _ | .connect s port _ => some (port, (L.sockets s).domain)
  | .sendto _ _ port domain _ _ => some (port, domain)
  | .recvfrom _ _ _ true (some port) (some domain) _ _ => some (port, domain)
  | .sendmsg _ _ true port domain _ _ => some (port, domain)
  | _ => none

/-- The call keeps the block of its address after its submission: in the slot of the request. The
others free it. -/
def keepsAddress : PyRequest → Bool
  | .recvfrom .. => true
  | _ => false

/-- The length of the data that the call writes or sends. -/
def dataLen : PyRequest → Option ℕ
  | .write _ data _ _ | .send _ data _ _ | .sendto _ data _ _ _ _ =>
    data.map fun e => e.region.len
  | _ => none

end PyRequest

/-! ## What the kernel reads -/

/-- What the kernel finds in memory that the program gave up before the kernel takes the entries of
a call. -/
structure Remains where
  /-- Where the frame of `timeout` was. -/
  timeout : Timespec
  /-- Where the frame of `timer` was, if that function has returned. -/
  timer : Timespec
  /-- Where the block of the address was, if it was freed. -/
  sockaddr : Sockaddr
  deriving DecidableEq

/-- The submission of the call itself takes the entry of its operation. -/
def Called.Took (c : Called) (L : Loop) : Prop := L.ring.tail ∈ c.consumed.map Prod.fst

instance (c : Called) (L : Loop) : Decidable (c.Took L) := inferInstanceAs (Decidable (_ ∈ _))

/-- `io_uring_submit` takes the entry of the call: its result is more than the number of entries
that were pending before. -/
def PyEnv.Submits (env : PyEnv) (L : Loop) : Prop := (L.ring.window.length : ℤ) < env.call.submitted

instance (env : PyEnv) (L : Loop) : Decidable (env.Submits L) := inferInstanceAs (Decidable (_ < _))

/-- Every number of the call is in the range of the field that it is for, or is still found in the
memory that the kernel reads it from. -/
structure PyRequest.Fits (L : Loop) (env : PyEnv) (req : PyRequest) (rem : Remains) : Prop where
  /-- A timer. -/
  timer : ∀ sec nsec count is_multishot,
    req = .timer (.dict (some sec) (some nsec) (some count) is_multishot) →
      (if env.Submits L then CInt.IsInt sec ∧ CInt.IsInt nsec else rem.timer = ⟨sec, nsec⟩) ∧
        0 ≤ count ∧ count < 2^32
  /-- A timeout. If it gets an entry, the frame of `timeout` has not been written over. -/
  timeout : ∀ sec nsec is_required,
    req.timeoutArg = .dict (some sec) (some nsec) (some is_required) →
      CInt.IsInt sec ∧ CInt.IsInt nsec ∧
      (2 ≤ L.ring.free → ∀ ts, requestedTimeout (some ⟨sec, nsec, is_required⟩) = some ts →
        rem.timeout = ts)
  /-- A port. -/
  port : ∀ port domain, req.address L = some (port, domain) →
    if req.keepsAddress ∨ env.Submits L then 0 ≤ port ∧ port < 2^16
    else (ntohs rem.sockaddr.port : ℤ) = port
  /-- The data. -/
  len : ∀ len, req.dataLen = some len → len < 2^32

variable {L : Loop} {env : PyEnv} {req : PyRequest} {r : PyCalled}

/-- A datagram of 16 bytes to the given port, with a timeout. -/
def Sample.sendto (port sec : ℤ) : PyRequest :=
  .sendto (.made 0) (some ⟨⟨5000, 16⟩, true, true⟩) port AF_INET false
    (.dict (some sec) (some 500) (some false))

end Uringio
