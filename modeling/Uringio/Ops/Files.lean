import Uringio.Ring.Ring

/-!
# File operations of the ops layer

`ops/files`: each function is `submitRequest` at its own helper call. The result `r` of the
submission is the last argument of each.
-/

namespace Uringio

/-- `O_RDWR | O_CREAT`. -/
def O_RDWR_O_CREAT : ℤ := 66

/-- The flags of a vectored read: `RWF_NOWAIT` or none. -/
def nowaitFlags (nowait : Bool) : ℤ := if nowait then RWF_NOWAIT else 0

/-- The entry asks for a buffer of the group `bgid`. -/
def selectBuffer (bgid : ℤ) (sqe : Sqe) : Sqe :=
  (sqe.setFlag IOSQE_BUFFER_SELECT).setBufIndex bgid

/-- `open_file`. -/
def openFile (ring : Ring) (request_idx dfd : ℤ) (path : String) (flags resolve : ℤ) (mode : ℕ)
    (timeout_params : TimeoutParams) (r : ℤ) : Submission :=
  let flags := if flags = -1 then O_RDWR_O_CREAT else flags
  submitRequest ring request_idx
    (.openat2 dfd path ⟨CInt.toU64 flags, mode, CInt.toU64 resolve⟩) id timeout_params r

/-- `uringio_read`. -/
def uringioRead (ring : Ring) (request_idx fd : ℤ) (buf size : ℕ) (offset : ℤ)
    (timeout_params : TimeoutParams) (r : ℤ) : Submission :=
  submitRequest ring request_idx (.read fd buf size (CInt.toU64 offset)) id timeout_params r

/-- `uringio_readv`. -/
def uringioReadv (ring : Ring) (request_idx fd : ℤ) (iovecs : List Iovec) (nr_vecs : ℕ)
    (offset : ℤ) (nowait : Bool) (timeout_params : TimeoutParams) (r : ℤ) : Submission :=
  submitRequest ring request_idx
    (.readv2 fd iovecs nr_vecs (CInt.toU64 offset) (nowaitFlags nowait)) id timeout_params r

/-- `uringio_write`. -/
def uringioWrite (ring : Ring) (request_idx fd : ℤ) (buf size : ℕ) (offset : ℤ)
    (timeout_params : TimeoutParams) (r : ℤ) : Submission :=
  submitRequest ring request_idx (.write fd buf size (CInt.toU64 offset)) id timeout_params r

/-- `uringio_writev`. -/
def uringioWritev (ring : Ring) (request_idx fd : ℤ) (iovecs : List Iovec) (nr_vecs : ℕ)
    (offset flags : ℤ) (timeout_params : TimeoutParams) (r : ℤ) : Submission :=
  submitRequest ring request_idx (.writev2 fd iovecs nr_vecs (CInt.toU64 offset) flags) id
    timeout_params r

/-- `uringio_close_file`. -/
def uringioCloseFile (ring : Ring) (request_idx fd : ℤ) (timeout_params : TimeoutParams) (r : ℤ) :
    Submission :=
  submitRequest ring request_idx (.close fd) id timeout_params r

/-- `uringio_fsync`. -/
def uringioFsync (ring : Ring) (request_idx fd : ℤ) (timeout_params : TimeoutParams) (r : ℤ) :
    Submission :=
  submitRequest ring request_idx (.fsync fd 0) id timeout_params r

/-- `uringio_fdatasync`. -/
def uringioFdatasync (ring : Ring) (request_idx fd : ℤ) (timeout_params : TimeoutParams) (r : ℤ) :
    Submission :=
  submitRequest ring request_idx (.fsync fd IORING_FSYNC_DATASYNC) id timeout_params r

/-- `uringio_splice`. -/
def uringioSplice (ring : Ring) (request_idx fd_in off_in fd_out off_out nbytes flag : ℤ)
    (timeout_params : TimeoutParams) (r : ℤ) : Submission :=
  submitRequest ring request_idx
    (.splice fd_in off_in fd_out off_out (CInt.toUnsigned nbytes) (CInt.toUnsigned flag)) id
    timeout_params r

/-- `uringio_read_fixed`. -/
def uringioReadFixed (ring : Ring) (request_idx fd : ℤ) (buf size : ℕ) (offset buf_index : ℤ)
    (timeout_params : TimeoutParams) (r : ℤ) : Submission :=
  submitRequest ring request_idx (.read_fixed fd buf size (CInt.toU64 offset) buf_index) id
    timeout_params r

/-- `uringio_write_fixed`. -/
def uringioWriteFixed (ring : Ring) (request_idx fd : ℤ) (buf size : ℕ) (offset buf_index : ℤ)
    (timeout_params : TimeoutParams) (r : ℤ) : Submission :=
  submitRequest ring request_idx (.write_fixed fd buf size (CInt.toU64 offset) buf_index) id
    timeout_params r

/-- `uringio_read_buffer_select`. -/
def uringioReadBufferSelect (ring : Ring) (request_idx fd : ℤ) (size : ℕ) (offset bgid : ℤ)
    (timeout_params : TimeoutParams) (r : ℤ) : Submission :=
  submitRequest ring request_idx (.read fd 0 size (CInt.toU64 offset)) (selectBuffer bgid)
    timeout_params r

/-- `uringio_readv_buffer_select`. -/
def uringioReadvBufferSelect (ring : Ring) (request_idx fd : ℤ) (size : ℕ) (offset bgid : ℤ)
    (nowait : Bool) (timeout_params : TimeoutParams) (r : ℤ) : Submission :=
  submitRequest ring request_idx
    (.readv2 fd [⟨0, size⟩] 1 (CInt.toU64 offset) (nowaitFlags nowait)) (selectBuffer bgid)
    timeout_params r

/-- `uringio_read_multishot`. -/
def uringioReadMultishot (ring : Ring) (request_idx fd offset bgid : ℤ)
    (timeout_params : TimeoutParams) (r : ℤ) : Submission :=
  submitRequest ring request_idx (.read_multishot fd 0 (CInt.toU64 offset) bgid) id
    timeout_params r

end Uringio
