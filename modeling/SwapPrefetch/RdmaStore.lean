/-
The page store of the library (`src/storage_rdma.c`).

A table of 65536 regions says which block of the server holds which swap offset. A write to an
offset without a region takes a free entry, or else recycles the least recently used one: it
releases the block of that entry, in the allocator of its own process, and asks the server for a
new block. The allocator's state is a static variable of each process, and only the server fills
it in, so the list of the library is its own (`sim_remote_memory_blocks`) and stays empty.

Calls are made one at a time, and the server serves each request before the next one. `CallEnv` is
what the environment adds to a call: the time, and whether the server and the translator can
allocate a list node. The buffer for the converted page can be allocated. The statistics and the
`dirty` flags are left out. Addresses of local buffers are not modelled: a read yields what it
places in `dest`, and `dest` is not the null pointer.

Three logs are ghosts: the pages whose writes returned `0`, newest first, each with the translator
that encoded it; the addresses that the server returned; and the calls of `rdma_sim_free` in the
library.
-/
import Mathlib.Tactic
import SwapPrefetch.PointerCodec
import SwapPrefetch.RdmaCalls

set_option autoImplicit false

namespace SwapPrefetch

/-- `MAX_REMOTE_REGIONS`. -/
abbrev MAX_REMOTE_REGIONS : ℕ := 65536

/-- `UINT64_MAX`. -/
abbrev UINT64_MAX : ℕ := 2 ^ 64 - 1

/-- `remote_region_t`. -/
structure RemoteRegion where
  virtual_offset : ℕ := 0
  remote_addr : ℕ := 0
  size : ℕ := 0
  in_use : Bool := false
  last_access : ℕ := 0
deriving DecidableEq, Repr

/-- Ghost: a write that returned `0`, with the page at `src`. -/
structure Written where
  virtual_offset : ℕ
  page : PageData
  translator : Translator

/-- Ghost: a call of `rdma_sim_free` in the library, whether its block had come from the server,
and the server's blocks after the call. -/
structure LibraryFree where
  remote_addr : ℕ
  obtained : Bool
  server : List MemBlock
deriving DecidableEq

/-- The library's side of the store, and the server. -/
structure RdmaStore where
  remote_regions : ℕ → RemoteRegion := fun _ => {}
  num_remote_regions : ℕ := 0
  /-- the allocator of the library process, which is never initialised -/
  sim_remote_memory_blocks : List MemBlock := []
  translator : Translator := address_translator_init {}
  rdma : Rdma := {}
  /-- ghost: the pages whose writes returned `0`, newest first -/
  written : List Written := []
  /-- ghost: the addresses that `RDMA_OP_ALLOCATE` returned -/
  obtained : List ℕ := []
  /-- ghost: the calls of `rdma_sim_free` in the library -/
  freed : List LibraryFree := []

/-- What the environment adds to a call. -/
structure CallEnv where
  /-- `time(NULL)` -/
  now : ℕ := 0
  /-- the server can allocate the node of a rest -/
  split : Bool := true
  /-- the translator can allocate the node of a region -/
  node : Bool := true

/-- The bytes of a page, from its address on. -/
def PageData.bytes (page : PageData) : Bytes := fun k => if h : k < PAGE_SIZE then page ⟨k, h⟩ else 0

/-- The page at an address. -/
def Bytes.page (bytes : Bytes) : PageData := fun k => bytes k

/-- The page that a conversion leaves. Its return value is only logged. -/
def converted (r : ℤ × PageData) : PageData := r.2

namespace RdmaStore

/-! ## The table -/

/-- Overwrite an entry of the table. -/
def setRegion (s : RdmaStore) (index : ℕ) (region : RemoteRegion) : RdmaStore :=
  { s with remote_regions := Function.update s.remote_regions index region }

/-- `find_remote_region` (`src/storage_rdma.c:117`): the index of the region of an offset. -/
def find_remote_region (virtual_offset : ℕ) (s : RdmaStore) : Option ℕ :=
  (List.range' 0 s.num_remote_regions).find? fun i =>
    (s.remote_regions i).in_use ∧ (s.remote_regions i).virtual_offset = virtual_offset

/-- The first entry of the table that is not in use. -/
def free_index (s : RdmaStore) : Option ℕ :=
  (List.range' 0 MAX_REMOTE_REGIONS).find? fun i => (s.remote_regions i).in_use = false

/-- One turn of the search for the entry that was not used for the longest time. -/
def older (s : RdmaStore) (oldest : ℕ × Option ℕ) (i : ℕ) : ℕ × Option ℕ :=
  -- strictly older: of several entries of one second the first is recycled
  if (s.remote_regions i).in_use ∧ (s.remote_regions i).last_access < oldest.1 then
    ((s.remote_regions i).last_access, some i)
  else oldest

/-- The entry that `allocate_remote_region` recycles. -/
def oldest_index (s : RdmaStore) : Option ℕ :=
  ((List.range' 0 s.num_remote_regions).foldl s.older (UINT64_MAX, none)).2

/-- `rdma_sim_free` in the library: it works on the library's own list, and its return value is
ignored. -/
def library_free (remote_addr : ℕ) (s : RdmaStore) : RdmaStore :=
  let s :=
    match rdma_sim_free remote_addr s.sim_remote_memory_blocks with
    | .ok blocks => { s with sim_remote_memory_blocks := blocks }
    | .error _ => s
  { s with
    freed := { remote_addr := remote_addr, obtained := s.obtained.contains remote_addr
               server := s.rdma.blocks } :: s.freed }

/-- The entry for a new region: a free one, or one that is recycled. -/
def claim_index (s : RdmaStore) : Option (ℕ × RdmaStore) :=
  match s.free_index with
  | some i => some (i, s)
  | none =>
      match s.oldest_index with
      -- the entry itself is overwritten only when the new region has its address
      | some i => some (i, s.library_free (s.remote_regions i).remote_addr)
      | none => none

/-- `allocate_remote_region` (`src/storage_rdma.c:126`): the index of the new region. -/
def allocate_remote_region (env : CallEnv) (key_virtual_offset size : ℕ) (s : RdmaStore) :
    Option ℕ × RdmaStore :=
  match s.claim_index with
  | none => (none, s)
  | some (index, s) =>
      let r := s.rdma.round_trip .ALLOCATE 0 0 size none env.split
      let s := { s with rdma := r.2 }
      match r.1 with
      | none => (none, s)
      | some (req_id, _) =>
          -- the address is taken from the first slot with this number
          let remote_addr :=
            match s.rdma.find_address req_id with
            | some i => (s.rdma.requests i).remote_addr
            | none => 0
          if remote_addr = 0 then (none, s)
          else
            let s := s.setRegion index
              { virtual_offset := key_virtual_offset, remote_addr := remote_addr, size := size
                in_use := true, last_access := env.now }
            (some index,
              { s with
                num_remote_regions := max s.num_remote_regions (index + 1)
                obtained := remote_addr :: s.obtained })

/-! ## Reads and writes -/

/-- `rdma_read_page` (`src/storage_rdma.c:333`): what it places in `dest`. -/
def rdma_read_page (env : CallEnv) (virtual_offset size : ℕ) (s : RdmaStore) :
    Except (Option Errno) Bytes × RdmaStore :=
  match s.find_remote_region virtual_offset with
  | none => (.error (some .EFAULT), s)
  | some i =>
      let region := s.remote_regions i
      let s := s.setRegion i { region with last_access := env.now }
      let r := s.rdma.round_trip .READ 1 region.remote_addr size none env.split
      let s := { s with rdma := r.2 }
      match r.1 with
      | none => (.error none, s)
      | some _ =>
          -- the page buffer is copied once more after the wait
          let dest := s.rdma.page_buffer
          if size = PAGE_SIZE then
            (.ok (converted
                (convert_pointers_from_remote_storage s.translator dest.page virtual_offset)).bytes, s)
          else (.ok dest, s)

/-- The region that `rdma_write_page` writes to: that of the offset, or a new one; a region of
another size is given up for a new one. -/
def write_region (env : CallEnv) (virtual_offset size : ℕ) (s : RdmaStore) : Option ℕ × RdmaStore :=
  let r :=
    match s.find_remote_region virtual_offset with
    | some i => (some i, s)
    | none => s.allocate_remote_region env virtual_offset size
  match r with
  | (none, s) => (none, s)
  | (some i, s) =>
      let region := s.remote_regions i
      if region.size = size then (some i, s)
      else
        let s := s.library_free region.remote_addr
        -- the mapping of the old region is dropped before the new one is known to exist
        let s := s.setRegion i { region with in_use := false }
        s.allocate_remote_region env virtual_offset size

/-- `register_address_region`, whose return value is ignored. -/
def register (env : CallEnv) (local_base size remote_base : ℕ) (s : RdmaStore) : RdmaStore :=
  match register_address_region env.node local_base size remote_base s.translator with
  | .ok translator => { s with translator := translator }
  | .error _ => s

/-- The end of `rdma_write_page` (`src/storage_rdma.c:432`): encode the page and send it. -/
def send_page (env : CallEnv) (virtual_offset remote_addr : ℕ) (src : Bytes) (size : ℕ)
    (s : RdmaStore) : Except (Option Errno) Unit × RdmaStore :=
  -- the offset on the disk is registered as if it were the address of the page
  let s := if size = PAGE_SIZE then s.register env virtual_offset size remote_addr else s
  let data :=
    if size = PAGE_SIZE then
      (converted (convert_pointers_for_remote_storage s.translator src.page virtual_offset)).bytes
    else src
  let r := s.rdma.round_trip .WRITE 1 remote_addr size (some data) env.split
  let s := { s with rdma := r.2 }
  match r.1 with
  | none => (.error none, s)
  | some _ =>
      (.ok (),
        { s with
          written := { virtual_offset := virtual_offset, page := src.page
                       translator := s.translator } :: s.written })

/-- `rdma_write_page` (`src/storage_rdma.c:388`). -/
def rdma_write_page (env : CallEnv) (virtual_offset : ℕ) (src : Bytes) (size : ℕ) (s : RdmaStore) :
    Except (Option Errno) Unit × RdmaStore :=
  match s.write_region env virtual_offset size with
  | (none, s) => (.error (some .ENOMEM), s)
  | (some i, s) =>
      let region := { s.remote_regions i with last_access := env.now }
      (s.setRegion i region).send_page env virtual_offset region.remote_addr src size

/-- `rdma_allocate_page_offset` (`src/storage_rdma.c:314`): a region for the offset `0`. -/
def rdma_allocate_page_offset (env : CallEnv) (size : ℕ) (s : RdmaStore) : ℕ × RdmaStore :=
  match s.allocate_remote_region env 0 size with
  | (some i, s) => ((s.remote_regions i).virtual_offset, s)
  | (none, s) => (UINT64_MAX, s)

/-- `rdma_storage_init` (`src/storage_rdma.c:195`) with a server that was just started. -/
def rdma_storage_init : RdmaStore :=
  { rdma := (({} : Rdma).round_trip .INIT 0 0 0 none true).2 }

/-! ## Calls of whole pages -/

/-- A call of one of the two routines for a page. -/
inductive Call where
  | write (env : CallEnv) (virtual_offset : ℕ) (page : PageData)
  | read (env : CallEnv) (virtual_offset : ℕ)

/-- What a call does to the state. -/
def step : Call → RdmaStore → RdmaStore
  | .write env virtual_offset page, s =>
      (s.rdma_write_page env virtual_offset page.bytes PAGE_SIZE).2
  | .read env virtual_offset, s => (s.rdma_read_page env virtual_offset PAGE_SIZE).2

/-- The state after a sequence of calls. -/
def exec (calls : List Call) : RdmaStore := Guarded.exec step calls rdma_storage_init

end RdmaStore

end SwapPrefetch
