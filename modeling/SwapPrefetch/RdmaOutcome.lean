/-
What a client learns about its request.

Two claims are made of `rdma_wait_request`: the outcome of a request stays in its slot until
its client has collected it, and the outcome that a client collects is that of its own
request. Neither holds of every run. The first holds of every run of one process that
overwrites no slot which is still waited for, the second of every run of any processes that
besides never takes a number which a slot of another process has.
-/
import Mathlib.Tactic
import SwapPrefetch.RdmaWait

set_option autoImplicit false

namespace SwapPrefetch

namespace Rdma

variable {s s' : Rdma} {key : Key} {i : ℕ}

/-! ## Slots that tell the truth -/

/-- The slot is in the queue. -/
def InQueue (s : Rdma) (i : ℕ) : Prop :=
  ∃ k, k < s.count ∧ i = (s.head + k) % MAX_RDMA_REQUESTS

/-- The slot tells the truth about a request: it is in the queue, or it holds what the server
answered. -/
structure Holds (s : Rdma) (key : Key) (i : ℕ) : Prop where
  slot : i < MAX_RDMA_REQUESTS
  named : (s.requests i).key = key
  truth : s.InQueue i ∨ ∃ p ∈ s.served, p.1.key = key ∧ p.2 = s.requests i

/-- Every number that a slot has was taken by its process. -/
structure Numbered (s : Rdma) : Prop where
  positive : ∀ client, 0 < s.request_id_counter client
  slot : ∀ i, (s.requests i).request_id = 0 ∨
    (s.requests i).request_id < s.request_id_counter (s.requests i).client

/-- No two slots have the same number. -/
def Distinct (s : Rdma) : Prop :=
  ∀ i j, i < MAX_RDMA_REQUESTS → j < MAX_RDMA_REQUESTS →
    (s.requests i).request_id = (s.requests j).request_id → (s.requests i).request_id ≠ 0 → i = j

/-- No slot of another process has the number that a submit of `client` takes. -/
def NumberFree (s : Rdma) (client : ℕ) : Prop :=
  ∀ i, i < MAX_RDMA_REQUESTS → (s.requests i).request_id = s.request_id_counter client →
    (s.requests i).client = client

instance (s : Rdma) (client : ℕ) : Decidable (s.NumberFree client) :=
  inferInstanceAs (Decidable (∀ i, i < MAX_RDMA_REQUESTS → _ → _))

theorem InQueue.mem (h : s.InQueue i) : s.requests i ∈ s.queue := by
  obtain ⟨k, hk, rfl⟩ := h
  exact Ring.mem_view hk

/-- The keys of the requests that were processed and of those in the queue are different. -/
theorem OrderInv.not_served_of_queue (h : s.OrderInv) {req : Request} (hreq : req ∈ s.queue)
    {p : Request × Request} (hp : p ∈ s.served) : p.1.key ≠ req.key := by
  have honce := h.once
  rw [h.order, List.map_append, List.nodup_append] at honce
  exact honce.2.2 _ (List.mem_map_of_mem (List.mem_map_of_mem hp)) _ (List.mem_map_of_mem hreq)

/-- An accepted request is known by its key. -/
theorem OrderInv.eq_of_key (h : s.OrderInv) {r r' : Request} (hr : r ∈ s.accepted)
    (hr' : r' ∈ s.accepted) (hkey : r.key = r'.key) : r = r' :=
  List.inj_on_of_nodup_map h.once hr hr' hkey

theorem OrderInv.served_accepted (h : s.OrderInv) {p : Request × Request} (hp : p ∈ s.served) :
    p.1 ∈ s.accepted := by
  rw [h.order]
  exact List.mem_append_left _ (List.mem_map_of_mem hp)

/-- A request is answered once. -/
theorem OrderInv.answer_unique (h : s.OrderInv) {p q : Request × Request} (hp : p ∈ s.served)
    (hq : q ∈ s.served) (hkey : p.1.key = q.1.key) : p = q := by
  have honce := h.once
  rw [h.order, List.map_append, List.nodup_append, List.map_map] at honce
  exact List.inj_on_of_nodup_map honce.1 hp hq hkey

/-- A slot that is not pending holds the answer. -/
theorem Holds.answer (h : s.Holds key i) (hs : s.OrderInv)
    (hstatus : (s.requests i).status ≠ .PENDING) :
    ∃ p ∈ s.served, p.1.key = key ∧ p.2 = s.requests i := by
  rcases h.truth with hq | hp
  · exact absurd (hs.queue_pending hq.mem) hstatus
  · exact hp

theorem Holds.unique (h : s.Holds key i) (hd : s.Distinct) (hkey : key.2 ≠ 0) {j : ℕ}
    (hj : j < MAX_RDMA_REQUESTS) (hid : (s.requests j).request_id = key.2) : j = i := by
  have hi : (s.requests i).request_id = key.2 := congrArg Prod.snd h.named
  exact hd j i hj h.slot (hid.trans hi.symm) (by rwa [hid])

/-! ## Submits -/

/-- What a submit does to the slots: nothing, or it fills the slot at `tail`. -/
structure Filled (s s' : Rdma) (client : ℕ) (req : Request) : Prop where
  free : s.count < MAX_RDMA_REQUESTS
  key : req.key = (client, s.request_id_counter client)
  pending : req.status = .PENDING
  requests : s'.requests = Function.update s.requests s.tail req
  head : s'.head = s.head
  count : s.count ≤ s'.count
  served : s'.served = s.served
  number : s'.request_id_counter =
    Function.update s.request_id_counter client (s.request_id_counter client + 1)

/-- An accepted request fills its slot. -/
theorem Alike.filled {client : ℕ} {s₂ : Rdma} {req : Request} (ha : Alike s₂ (s.takeId client))
    (hfree : s.count < MAX_RDMA_REQUESTS) (hkey : req.key = (client, s.request_id_counter client))
    (hpending : req.status = .PENDING) :
    Filled s (s₂.enqueue req) client req ∧ (s₂.enqueue req).count = s.count + 1 := by
  have hcount : (s₂.enqueue req).count = s.count + 1 := by
    show s₂.count + 1 = _
    rw [ha.count]
    rfl
  refine ⟨⟨hfree, hkey, hpending, ?_, ha.head, by omega, ha.served, ha.number⟩, hcount⟩
  show Function.update s₂.requests s₂.tail req = _
  rw [ha.requests, ha.tail]
  rfl

theorem Submitted.filled {client id : ℕ} {op_type : RdmaOp}
    (h : Submitted s client op_type id s') :
    s' = s ∧ id = 0 ∨ ∃ req, Filled s s' client req ∧
      (id = 0 ∧ s'.accepted = s.accepted ∨ id = s.request_id_counter client ∧
        s'.count = s.count + 1 ∧ s'.accepted = s.accepted ++ [req]) := by
  cases h with
  | full => exact Or.inl ⟨rfl, rfl⟩
  | @rejected req hfree hkey hpending =>
      exact Or.inr ⟨req, ⟨hfree, hkey, hpending, rfl, rfl, le_rfl, rfl, rfl⟩, Or.inl ⟨rfl, rfl⟩⟩
  | @accepted s₂ req hfree hkey hpending _ ha =>
      obtain ⟨hf, hcount⟩ := ha.filled hfree hkey hpending
      refine Or.inr ⟨req, hf, Or.inr ⟨rfl, hcount, ?_⟩⟩
      show s₂.accepted ++ [req] = _
      rw [ha.accepted]
      rfl

section Filling

variable {client : ℕ} {req : Request}

/-- A slot that is not overwritten keeps telling the truth. -/
theorem Holds.filled (h : s.Holds key i) (hf : Filled s s' client req)
    (htail : (s.requests s.tail).key ≠ key) : s'.Holds key i := by
  have hi : i ≠ s.tail := by
    intro he
    rw [← he] at htail
    exact htail h.named
  have hslot : s'.requests i = s.requests i := by
    rw [hf.requests, Function.update_of_ne hi]
  refine ⟨h.slot, hslot ▸ h.named, ?_⟩
  rw [hslot, hf.served]
  refine h.truth.imp_left ?_
  rintro ⟨k, hk, he⟩
  exact ⟨k, lt_of_lt_of_le hk hf.count, by rw [hf.head]; exact he⟩

/-- The slot of a new request is in the queue. -/
theorem Filled.holds (hf : Filled s s' client req) (hr : s.RingOk)
    (hcount : s'.count = s.count + 1) :
    s'.Holds (client, s.request_id_counter client) s.tail := by
  refine ⟨?_, ?_, Or.inl ⟨s.count, by omega, ?_⟩⟩
  · rw [hr.tail]
    exact Nat.mod_lt _ (by decide)
  · rw [hf.requests, Function.update_self]
    exact hf.key
  · rw [hf.head, hr.tail]

theorem Filled.number_mono (hf : Filled s s' client req) (c : ℕ) :
    s.request_id_counter c ≤ s'.request_id_counter c := by
  rw [hf.number]
  by_cases hc : c = client
  · rw [hc, Function.update_self]
    omega
  · rw [Function.update_of_ne hc]

theorem Numbered.filled (h : s.Numbered) (hf : Filled s s' client req) : s'.Numbered := by
  refine ⟨fun c => lt_of_lt_of_le (h.positive c) (hf.number_mono c), fun i => ?_⟩
  rw [hf.requests]
  by_cases hi : i = s.tail
  · refine Or.inr ?_
    obtain ⟨hclient, hid⟩ := Prod.mk.inj hf.key
    rw [hi, Function.update_self, hclient, hid, hf.number, Function.update_self]
    omega
  · rw [Function.update_of_ne hi]
    exact (h.slot i).imp_right fun hlt => lt_of_lt_of_le hlt (hf.number_mono _)

/-- The number of a new request is in no other slot. -/
theorem Numbered.number_new (h : s.Numbered) (hfree : s.NumberFree client)
    (hi : i < MAX_RDMA_REQUESTS) : (s.requests i).request_id ≠ s.request_id_counter client := by
  intro he
  have hclient := hfree i hi he
  have hpos := h.positive client
  rcases h.slot i with h0 | hlt
  · omega
  · rw [hclient] at hlt
    omega

theorem Distinct.filled (h : s.Distinct) (hn : s.Numbered) (hfree : s.NumberFree client)
    (hf : Filled s s' client req) : s'.Distinct := by
  have hid : req.request_id = s.request_id_counter client := congrArg Prod.snd hf.key
  intro i j hi hj he h0
  rw [hf.requests] at he h0
  by_cases hit : i = s.tail
  · by_cases hjt : j = s.tail
    · rw [hit, hjt]
    · rw [hit, Function.update_self, Function.update_of_ne hjt, hid] at he
      exact absurd he.symm (hn.number_new hfree hj)
  · rw [Function.update_of_ne hit] at he h0
    by_cases hjt : j = s.tail
    · rw [hjt, Function.update_self, hid] at he
      exact absurd he (hn.number_new hfree hi)
    · rw [Function.update_of_ne hjt] at he
      exact h i j hi hj he h0

end Filling

/-! ## The server -/

section Answering

variable {answer : Request}

/-- The numbers and the processes of the slots stay. -/
theorem Answered.slot_key (h : Answered s s' answer) (i : ℕ) :
    (s'.requests i).key = (s.requests i).key := by
  rw [h.requests]
  by_cases hi : i = s.head
  · rw [hi, Function.update_self]
    exact h.same.key
  · rw [Function.update_of_ne hi]

theorem Answered.slot_id (h : Answered s s' answer) (i : ℕ) :
    (s'.requests i).request_id = (s.requests i).request_id :=
  congrArg Prod.snd (h.slot_key i)

theorem Answered.mem_served (h : Answered s s' answer) {p : Request × Request}
    (hp : p ∈ s.served) : p ∈ s'.served := by
  rw [h.served]
  exact List.mem_append_left _ hp

/-- Serving a request keeps every slot truthful: the slot at `head` gets the answer, and the
rest of the queue stays in the queue. -/
theorem Holds.answered (h : s.Holds key i) (hr : s.RingOk) (ha : Answered s s' answer) :
    s'.Holds key i := by
  refine ⟨h.slot, (ha.slot_key i).trans h.named, ?_⟩
  by_cases hi : i = s.head
  · refine Or.inr ⟨(s.requests s.head, answer), ?_, ?_, ?_⟩
    · rw [ha.served]
      exact List.mem_append_right _ List.mem_cons_self
    · rw [← hi]
      exact h.named
    · rw [hi, ha.requests, Function.update_self]
  · rcases h.truth with ⟨k, hk, he⟩ | ⟨p, hp, hkey, hans⟩
    · have hk0 : k ≠ 0 := by
        rintro rfl
        rw [Nat.add_zero, Nat.mod_eq_of_lt hr.head] at he
        exact hi he
      refine Or.inl ⟨k - 1, ?_, ?_⟩
      · rw [ha.count]
        omega
      · rw [ha.head, Nat.mod_add_mod, he]
        congr 1
        omega
    · refine Or.inr ⟨p, ha.mem_served hp, hkey, ?_⟩
      rw [ha.requests, Function.update_of_ne hi]
      exact hans

theorem Numbered.answered (h : s.Numbered) (ha : Answered s s' answer) : s'.Numbered := by
  refine ⟨fun c => by rw [ha.number]; exact h.positive c, fun i => ?_⟩
  have hclient : (s'.requests i).client = (s.requests i).client := congrArg Prod.fst (ha.slot_key i)
  rw [ha.slot_id i, hclient, ha.number]
  exact h.slot i

theorem Distinct.answered (h : s.Distinct) (ha : Answered s s' answer) : s'.Distinct := by
  intro i j hi hj he h0
  rw [ha.slot_id i] at he h0
  rw [ha.slot_id j] at he
  exact h i j hi hj he h0

end Answering

/-! ## Scans -/

theorem find_slot_spec {request_id : ℕ} (h : s.find_slot request_id = some i) :
    i < MAX_RDMA_REQUESTS ∧ (s.requests i).request_id = request_id ∧
      (s.requests i).status ≠ .PENDING := by
  refine ⟨List.mem_range.mp (List.mem_of_find?_eq_some h), ?_⟩
  simpa using List.find?_some h

theorem find_address_spec {request_id : ℕ} (h : s.find_address request_id = some i) :
    i < MAX_RDMA_REQUESTS ∧ (s.requests i).request_id = request_id := by
  refine ⟨List.mem_range.mp (List.mem_of_find?_eq_some h), ?_⟩
  simpa using List.find?_some h

/-- A scan finds the slot of a served request. -/
theorem Holds.find_slot (h : s.Holds key i) (hd : s.Distinct) (hkey : key.2 ≠ 0)
    (hstatus : (s.requests i).status ≠ .PENDING) : s.find_slot key.2 = some i := by
  have hid : (s.requests i).request_id = key.2 := congrArg Prod.snd h.named
  rcases hfind : s.find_slot key.2 with _ | j
  · have hnone := List.find?_eq_none.mp hfind i (List.mem_range.mpr h.slot)
    simp [hid, hstatus] at hnone
  · obtain ⟨hj, hjd, -⟩ := find_slot_spec hfind
    rw [h.unique hd hkey hj hjd]

theorem Holds.find_address (h : s.Holds key i) (hd : s.Distinct) (hkey : key.2 ≠ 0) :
    s.find_address key.2 = some i := by
  have hid : (s.requests i).request_id = key.2 := congrArg Prod.snd h.named
  rcases hfind : s.find_address key.2 with _ | j
  · have hnone := List.find?_eq_none.mp hfind i (List.mem_range.mpr h.slot)
    simp [hid] at hnone
  · obtain ⟨hj, hjd⟩ := find_address_spec hfind
    rw [h.unique hd hkey hj hjd]

end Rdma

/-! ## Slots that are still needed -/

/-- The phases in which the slot of a request is still needed: until the wait returned, or,
with `address`, until the address was taken as well. -/
def WaitPhase.Needs (address : Bool) : WaitPhase → Prop
  | .searching => True
  | .found _ => True
  | .collecting => address = true
  | .done => False

instance (address : Bool) (phase : WaitPhase) : Decidable (phase.Needs address) :=
  match phase with
  | .searching => isTrue trivial
  | .found _ => isTrue trivial
  | .collecting => inferInstanceAs (Decidable (address = true))
  | .done => isFalse id

namespace Clients

variable {s : Clients} {address : Bool} {key : Key} {w : Waiter}

/-- The slot at `tail`, which the next submit overwrites, is not needed. -/
def SlotFree (address : Bool) (s : Clients) : Prop :=
  ∀ w ∈ s.waiters (s.rdma.requests s.rdma.tail).key, ¬ w.phase.Needs address

instance (s : Clients) (address : Bool) : Decidable (s.SlotFree address) :=
  inferInstanceAs (Decidable (∀ w ∈ s.waiters _, ¬ w.phase.Needs address))

/-- The slots have different numbers, and the requests whose slots are needed have slots
that tell the truth. -/
structure Kept (address : Bool) (s : Clients) : Prop where
  order : s.rdma.OrderInv
  numbered : s.rdma.Numbered
  distinct : s.rdma.Distinct
  known : ∀ key w, s.waiters key = some w → 0 < key.2 ∧ key.2 < s.rdma.request_id_counter key.1
  waited : ∀ req ∈ s.rdma.accepted, ∃ w, s.waiters req.key = some w
  kept : ∀ key w, s.waiters key = some w → w.phase.Needs address → ∃ i, s.rdma.Holds key i

theorem kept_start (address : Bool) : Kept address {} where
  order := Rdma.orderInv_start
  numbered := ⟨fun _ => Nat.one_pos, fun _ => Or.inl rfl⟩
  distinct := fun _ _ _ _ _ h0 => absurd rfl h0
  known := fun _ _ h => nomatch h
  waited := fun _ h => nomatch h
  kept := fun _ _ h => nomatch h

theorem setPhase_cases {phase : WaitPhase} {key' : Key} {w' : Waiter}
    (h : (s.setPhase key w phase).waiters key' = some w') :
    key' = key ∧ w' = { w with phase := phase } ∨ key' ≠ key ∧ s.waiters key' = some w' := by
  simp only [setPhase, Function.update_apply] at h
  split at h
  · rename_i hk
    exact Or.inl ⟨hk, (Option.some.inj h).symm⟩
  · rename_i hk
    exact Or.inr ⟨hk, h⟩

theorem setPhase_isSome {phase : WaitPhase} {key' : Key} {w' : Waiter}
    (h : s.waiters key' = some w') : ∃ w'', (s.setPhase key w phase).waiters key' = some w'' := by
  simp only [setPhase, Function.update_apply]
  split
  · exact ⟨_, rfl⟩
  · exact ⟨w', h⟩

/-- The client of a request moves on, and needs its slot no more than before. -/
theorem Kept.setPhase (h : s.Kept address) (hw : s.waiters key = some w) {phase : WaitPhase}
    (hp : phase.Needs address → w.phase.Needs address) : (s.setPhase key w phase).Kept address := by
  refine ⟨h.order, h.numbered, h.distinct, ?_, ?_, ?_⟩
  · intro key' w' hw'
    rcases setPhase_cases hw' with ⟨rfl, -⟩ | ⟨-, hw'⟩
    · exact h.known _ w hw
    · exact h.known key' w' hw'
  · intro req hreq
    obtain ⟨w', hw'⟩ := h.waited req hreq
    exact setPhase_isSome hw'
  · intro key' w' hw' hneeds
    rcases setPhase_cases hw' with ⟨rfl, rfl⟩ | ⟨-, hw'⟩
    · exact h.kept _ w hw (hp hneeds)
    · exact h.kept key' w' hw' hneeds

/-- The state after a submit: the ring, and the client of an accepted request. -/
def submitted (s : Clients) (client : ℕ) (op_type : RdmaOp) (id : ℕ) (rdma : Rdma) : Clients :=
  if id = 0 then { s with rdma := rdma }
  else
    { s with
      rdma := rdma
      waiters := Function.update s.waiters (client, id)
        (some { op_type := op_type, phase := .searching }) }

/-- **A submit** keeps the slots that are needed, if it overwrites none of them and its number
is new. -/
theorem Kept.submitted (h : s.Kept address) {client id : ℕ} {op_type : RdmaOp} {rdma : Rdma}
    (hsub : Rdma.Submitted s.rdma client op_type id rdma) (horder : rdma.OrderInv)
    (hguard : s.rdma.count < MAX_RDMA_REQUESTS → s.SlotFree address ∧ s.rdma.NumberFree client) :
    (s.submitted client op_type id rdma).Kept address := by
  rcases hsub.filled with ⟨rfl, rfl⟩ | ⟨req, hf, hid⟩
  · exact h
  · obtain ⟨hslot, hnumber⟩ := hguard hf.free
    have hnum := h.numbered.filled hf
    have hdist := h.distinct.filled h.numbered hnumber hf
    have hknown : ∀ key w, s.waiters key = some w →
        0 < key.2 ∧ key.2 < rdma.request_id_counter key.1 := fun key w hw =>
      ⟨(h.known key w hw).1, lt_of_lt_of_le (h.known key w hw).2 (hf.number_mono _)⟩
    -- the slot that is filled is not one that a waiter needs
    have hkept : ∀ key w, s.waiters key = some w → w.phase.Needs address →
        ∃ i, rdma.Holds key i := by
      intro key w hw hneeds
      obtain ⟨i, hi⟩ := h.kept key w hw hneeds
      refine ⟨i, hi.filled hf ?_⟩
      rintro rfl
      exact hslot w hw hneeds
    -- a request that was rejected after its slot was filled has no waiter
    rcases hid with ⟨rfl, hacc⟩ | ⟨rfl, hcount, hacc⟩
    · have he : s.submitted client op_type 0 rdma = { s with rdma := rdma } := if_pos rfl
      rw [he]
      exact ⟨horder, hnum, hdist, hknown, by rw [hacc]; exact h.waited, hkept⟩
    · have hpos := h.numbered.positive client
      have he : s.submitted client op_type (s.rdma.request_id_counter client) rdma =
          { s with
            rdma := rdma
            waiters := Function.update s.waiters (client, s.rdma.request_id_counter client)
              (some { op_type := op_type, phase := .searching }) } := if_neg (by omega)
      rw [he]
      refine ⟨horder, hnum, hdist, ?_, ?_, ?_⟩
      · intro key w hw
        by_cases hk : key = (client, s.rdma.request_id_counter client)
        · rw [hk, hf.number]
          simp only [Function.update_self]
          omega
        · exact hknown key w ((Function.update_of_ne hk ..).symm.trans hw)
      · intro r hr
        by_cases hk : r.key = (client, s.rdma.request_id_counter client)
        · rw [hk]
          exact ⟨_, Function.update_self ..⟩
        · rw [hacc] at hr
          rcases List.mem_append.mp hr with hr | hr
          · obtain ⟨w, hw⟩ := h.waited r hr
            exact ⟨w, (Function.update_of_ne hk ..).trans hw⟩
          · rw [List.mem_singleton.mp hr] at hk
            exact absurd hf.key hk
      · intro key w hw hneeds
        by_cases hk : key = (client, s.rdma.request_id_counter client)
        · rw [hk]
          exact ⟨_, hf.holds h.order.ring hcount⟩
        · exact hkept key w ((Function.update_of_ne hk ..).symm.trans hw) hneeds

/-- **A turn of the drain loop** keeps all slots truthful. -/
theorem Kept.process_one (h : s.Kept address) (split : Bool) (hpos : 0 < s.rdma.count) :
    Kept address { s with rdma := s.rdma.process_one split } := by
  obtain ⟨answer, ha⟩ := h.order.process_one_answered split hpos
  refine ⟨h.order.process_one split hpos, h.numbered.answered ha, h.distinct.answered ha, ?_, ?_, ?_⟩
  · intro key w hw
    show _ ∧ key.2 < (s.rdma.process_one split).request_id_counter key.1
    rw [ha.number]
    exact h.known key w hw
  · show ∀ req ∈ (s.rdma.process_one split).accepted, _
    rw [ha.accepted]
    exact h.waited
  · intro key w hw hneeds
    obtain ⟨i, hi⟩ := h.kept key w hw hneeds
    exact ⟨i, hi.answered h.order.ring ha⟩

/-! ## The steps of a client -/

theorem search_cases (s : Clients) (client request_id : ℕ) :
    step (.search client request_id) s = s ∨
    ∃ w i, s.waiters (client, request_id) = some w ∧ w.phase = .searching ∧
      s.rdma.find_slot request_id = some i ∧
      step (.search client request_id) s = s.setPhase (client, request_id) w (.found i) := by
  simp only [step]
  split
  · rename_i w hw
    by_cases hphase : w.phase = .searching
    · rw [if_pos hphase]
      split
      · rename_i i hi
        exact Or.inr ⟨w, i, hw, hphase, hi, rfl⟩
      · exact Or.inl rfl
    · exact Or.inl (if_neg hphase)
  · exact Or.inl rfl

theorem read_cases (s : Clients) (client request_id : ℕ) :
    step (.read client request_id) s = s ∨
    ∃ w i, s.waiters (client, request_id) = some w ∧ w.phase = .found i ∧
      step (.read client request_id) s = s.read_slot (client, request_id) w i := by
  simp only [step]
  split
  · rename_i w hw
    split
    · rename_i i hi
      exact Or.inr ⟨w, i, hw, hi, rfl⟩
    · exact Or.inl rfl
  · exact Or.inl rfl

theorem address_cases (s : Clients) (client request_id : ℕ) :
    step (.address client request_id) s = s ∨
    ∃ w, s.waiters (client, request_id) = some w ∧ w.phase = .collecting ∧
      step (.address client request_id) s = s.take_address (client, request_id) w := by
  simp only [step]
  split
  · rename_i w hw
    by_cases hphase : w.phase = .collecting
    · exact Or.inr ⟨w, hw, hphase, if_pos hphase⟩
    · exact Or.inl (if_neg hphase)
  · exact Or.inl rfl

theorem give_up_cases (s : Clients) (client request_id : ℕ) :
    step (.give_up client request_id) s = s ∨
    ∃ w, s.waiters (client, request_id) = some w ∧ w.phase = .searching ∧
      step (.give_up client request_id) s = s.setPhase (client, request_id) w .done := by
  simp only [step]
  split
  · rename_i w hw
    by_cases hphase : w.phase = .searching
    · exact Or.inr ⟨w, hw, hphase, if_pos hphase⟩
    · exact Or.inl (if_neg hphase)
  · exact Or.inl rfl

/-- The logs of the clients play no part. -/
theorem Kept.of_log (h : s.Kept address) (returns : List WaitReturn) (addresses : List (Key × ℕ)) :
    Kept address { s with returns := returns, addresses := addresses } :=
  ⟨h.order, h.numbered, h.distinct, h.known, h.waited, h.kept⟩

theorem Kept.read_slot (h : s.Kept address) (hw : s.waiters key = some w) {i : ℕ}
    (hphase : w.phase = .found i) : (s.read_slot key w i).Kept address := by
  have hneeds : w.phase.Needs address := by
    rw [hphase]
    trivial
  unfold Clients.read_slot
  split
  · exact h.setPhase hw fun _ => hneeds
  · exact h.setPhase hw fun _ => hneeds
  · exact (h.setPhase hw fun _ => hneeds).of_log _ _

theorem Kept.take_address (h : s.Kept address) (hw : s.waiters key = some w) :
    (s.take_address key w).Kept address := by
  have hdone : (s.setPhase key w .done).Kept address := h.setPhase hw fun hd => hd.elim
  unfold Clients.take_address
  split
  · exact hdone.of_log _ _
  · exact hdone

/-- A submit overwrites no slot that is needed, and takes a number that no slot of another
process has. -/
def Guard (address : Bool) (s : Clients) : Step → Prop
  | .submit client _ _ _ _ _ =>
      s.rdma.count < MAX_RDMA_REQUESTS → s.SlotFree address ∧ s.rdma.NumberFree client
  | _ => True

instance (s : Clients) (t : Step) : Decidable (s.Guard address t) :=
  match t with
  | .submit client _ _ _ _ _ =>
      inferInstanceAs (Decidable (_ → s.SlotFree address ∧ s.rdma.NumberFree client))
  | .drain _ | .search _ _ | .read _ _ | .address _ _ | .give_up _ _ => isTrue trivial

theorem Kept.step (h : s.Kept address) {t : Step} (hguard : s.Guard address t) :
    (step t s).Kept address := by
  cases t with
  | submit client op_type local_addr remote_addr size data =>
      exact h.submitted (Rdma.submit_submitted s.rdma client op_type local_addr remote_addr size
        data false) (h.order.submit client op_type local_addr remote_addr size data false) hguard
  | drain split =>
      exact Rdma.drain_invariant (I := fun r => Kept address { s with rdma := r })
        (fun split r hr hpos => hr.process_one split hpos) split h
  | search client request_id =>
      rcases search_cases s client request_id with he | ⟨w, i, hw, hphase, -, he⟩ <;> rw [he]
      · exact h
      · refine h.setPhase hw fun _ => ?_
        rw [hphase]
        trivial
  | read client request_id =>
      rcases read_cases s client request_id with he | ⟨w, i, hw, hphase, he⟩ <;> rw [he]
      · exact h
      · exact h.read_slot hw hphase
  | address client request_id =>
      rcases address_cases s client request_id with he | ⟨w, hw, -, he⟩ <;> rw [he]
      · exact h
      · exact h.take_address hw
  | give_up client request_id =>
      rcases give_up_cases s client request_id with he | ⟨w, hw, -, he⟩ <;> rw [he]
      · exact h
      · exact h.setPhase hw fun hd => hd.elim

/-! ## One process: outcomes survive -/

/-- Only threads of one process submit. -/
def Step.OfProcess (process : ℕ) : Step → Prop
  | .submit client _ _ _ _ _ => client = process
  | _ => True

/-- A submit overwrites no slot whose client has not returned from its wait. -/
def KeepsSlots (s : Clients) : Step → Prop
  | .submit _ _ _ _ _ _ => s.rdma.count < MAX_RDMA_REQUESTS → s.SlotFree false
  | _ => True

instance (s : Clients) (t : Step) : Decidable (s.KeepsSlots t) :=
  match t with
  | .submit .. => inferInstanceAs (Decidable (_ → s.SlotFree false))
  | .drain _ | .search _ _ | .read _ _ | .address _ _ | .give_up _ _ => isTrue trivial

/-- All slots belong to one process. -/
def Owned (process : ℕ) (s : Clients) : Prop :=
  ∀ i, (s.rdma.requests i).client = process ∨ (s.rdma.requests i).request_id = 0

variable {process : ℕ}

theorem Owned.numberFree (h : s.Owned process) (hn : s.rdma.Numbered) :
    s.rdma.NumberFree process := by
  intro i _ hid
  refine (h i).resolve_right fun h0 => ?_
  have hpos := hn.positive process
  omega

theorem Owned.step (h : s.Owned process) (hs : s.Kept address) {t : Step}
    (ht : t.OfProcess process) : (step t s).Owned process := by
  cases t with
  | submit client op_type local_addr remote_addr size data =>
      have hsub := Rdma.submit_submitted s.rdma client op_type local_addr remote_addr size data false
      have hslots : ∀ i, ((s.rdma.rdma_submit_request client op_type local_addr remote_addr size data
          false).2.requests i).client = process ∨ ((s.rdma.rdma_submit_request client op_type
          local_addr remote_addr size data false).2.requests i).request_id = 0 := by
        intro i
        rcases hsub.filled with ⟨he, -⟩ | ⟨req, hf, -⟩
        · rw [he]
          exact h i
        · rw [hf.requests]
          by_cases hi : i = s.rdma.tail
          · rw [hi, Function.update_self]
            exact Or.inl ((congrArg Prod.fst hf.key).trans ht)
          · rw [Function.update_of_ne hi]
            exact h i
      simp only [Clients.step]
      split <;> exact hslots
  | drain split =>
      refine (Rdma.drain_invariant
        (I := fun r => Kept address { s with rdma := r } ∧ Owned process { s with rdma := r })
        (fun split r hr hpos => ⟨hr.1.process_one split hpos, fun i => ?_⟩) split ⟨hs, h⟩).2
      obtain ⟨answer, ha⟩ := hr.1.order.process_one_answered split hpos
      -- an answer keeps the number and the owner of its slot
      obtain ⟨hclient, hid⟩ := Prod.mk.inj (ha.slot_key i)
      show ((r.process_one split).requests i).client = process ∨
        ((r.process_one split).requests i).request_id = 0
      rw [hclient, hid]
      exact hr.2 i
  | search client request_id =>
      rcases search_cases s client request_id with he | ⟨w, i, -, -, -, he⟩ <;> rw [he] <;> exact h
  | read client request_id =>
      rcases read_cases s client request_id with he | ⟨w, i, -, -, he⟩ <;> rw [he]
      · exact h
      · unfold Clients.read_slot
        split <;> exact h
  | address client request_id =>
      rcases address_cases s client request_id with he | ⟨w, -, -, he⟩ <;> rw [he]
      · exact h
      · unfold Clients.take_address
        split <;> exact h
  | give_up client request_id =>
      rcases give_up_cases s client request_id with he | ⟨w, -, -, he⟩ <;> rw [he] <;> exact h

/-- The client of the request has returned from `rdma_wait_request`. -/
def Returned (s : Clients) (key : Key) : Prop :=
  ∃ w, s.waiters key = some w ∧ (w.phase = .collecting ∨ w.phase = .done)

end Clients

/-- The slot carries the number of the request and its true state: the request as it was
submitted, until the server answered it, and then the answer. -/
def Rdma.Tells (s : Rdma) (req : Request) (i : ℕ) : Prop :=
  (s.requests i).request_id = req.request_id ∧
    (req ∉ s.served.map Prod.fst ∧ s.requests i = req ∨
      ∃ answer, (req, answer) ∈ s.served ∧ s.requests i = answer)

namespace Clients

variable {s : Clients} {address : Bool} {process : ℕ} {key : Key} {w : Waiter}

/-- Every accepted request whose client still waits is told the truth about by some slot, and
a scan finds it as soon as it was served. -/
def OutcomesSurvive (s : Clients) : Prop :=
  ∀ req ∈ s.rdma.accepted, ¬ s.Returned req.key →
    (∃ i, i < MAX_RDMA_REQUESTS ∧ s.rdma.Tells req i) ∧
      ∀ answer, (req, answer) ∈ s.rdma.served → s.rdma.find_request req.request_id = some answer

theorem Kept.outcomesSurvive (h : s.Kept false) : s.OutcomesSurvive := by
  intro req hreq hwait
  obtain ⟨w, hw⟩ := h.waited req hreq
  have hneeds : w.phase.Needs false := by
    rcases hphase : w.phase with _ | i | _ | _
    · trivial
    · trivial
    · exact absurd ⟨w, hw, Or.inl hphase⟩ hwait
    · exact absurd ⟨w, hw, Or.inr hphase⟩ hwait
  obtain ⟨i, hi⟩ := h.kept req.key w hw hneeds
  have hid : (s.rdma.requests i).request_id = req.request_id := congrArg Prod.snd hi.named
  have hkey : req.key.2 ≠ 0 := (h.known req.key w hw).1.ne'
  -- an answer to this key is an answer to this request
  have hpair : ∀ p ∈ s.rdma.served, p.1.key = req.key → p.1 = req := fun p hp hpk =>
    h.order.eq_of_key (h.order.served_accepted hp) hreq hpk
  refine ⟨⟨i, hi.slot, hid, ?_⟩, fun answer hans => ?_⟩
  · rcases hi.truth with hq | ⟨p, hp, hpk, hans⟩
    · have hmem : s.rdma.requests i ∈ s.rdma.accepted := by
        rw [h.order.order]
        exact List.mem_append_right _ hq.mem
      have he := h.order.eq_of_key hmem hreq hi.named
      refine Or.inl ⟨fun hserved => ?_, he⟩
      obtain ⟨p, hp, hpr⟩ := List.mem_map.mp hserved
      exact h.order.not_served_of_queue hq.mem hp (by rw [hpr, he])
    · refine Or.inr ⟨p.2, ?_, hans.symm⟩
      rw [← hpair p hp hpk]
      exact hp
  · -- the slot is not in the queue, so it holds an answer, and there is only one
    rcases hi.truth with hq | ⟨p, hp, hpk, hpi⟩
    · exact absurd hi.named.symm (h.order.not_served_of_queue hq.mem hans)
    · have hp' : p = (req, answer) := h.order.answer_unique hp hans hpk
      rw [hp'] at hpi
      have hstatus : (s.rdma.requests i).status ≠ .PENDING := by
        rw [← hpi]
        exact h.order.answered _ hans
      have hfind : s.rdma.find_slot req.request_id = some i := hi.find_slot h.distinct hkey hstatus
      show (s.rdma.find_slot req.request_id).map s.rdma.requests = some answer
      rw [hfind, Option.map_some, ← hpi]

/-- **Outcomes survive.** In every run of any number of threads of one process whose submits
overwrite no slot that is still waited for, the outcome of every accepted request stays in a
slot until its submitter has returned from its wait. -/
theorem outcomes_survive_of_slots_free {run : List Step} (hone : ∀ t ∈ run, t.OfProcess process)
    (hrun : Guarded.Meets step KeepsSlots run {}) : (exec run).OutcomesSurvive := by
  have hinv : (exec run).Kept false ∧ (exec run).Owned process := by
    refine Guarded.exec_invariant (I := fun s => s.Kept false ∧ s.Owned process)
      (fun s t hs ht => ⟨hs.1.step ?_, hs.2.step hs.1 ht.1⟩) ⟨kept_start false, fun _ => Or.inr rfl⟩
      (hrun.and hone)
    cases t with
    | submit client op_type local_addr remote_addr size data =>
        intro hfree
        have hclient : client = process := ht.1
        rw [hclient]
        exact ⟨ht.2 hfree, hs.2.numberFree hs.1.numbered⟩
    | _ => trivial
  exact hinv.1.outcomesSurvive

/-- A thread submits a request without data. -/
def request (client : ℕ) (op_type : RdmaOp) : Step := .submit client op_type 0 0 4096 none

/-- The ring is filled and drained, and then a write that is too large is rejected. -/
def rejectedWrite : List Step :=
  List.replicate MAX_RDMA_REQUESTS (request 0 .INIT) ++
    [.drain fun _ => true, .submit 0 .WRITE 0 0 4097 (some fun _ => 0)]

/-- The rejected write has overwritten the slot of the first request, for which its submitter
still waits. -/
theorem outcomes_lost_rejectedWrite : ¬ (exec rejectedWrite).OutcomesSurvive := by
  intro h
  have hgone : ∀ i, i < MAX_RDMA_REQUESTS →
      ((exec rejectedWrite).rdma.requests i).request_id ≠ 1 := by decide +kernel
  have hfirst : ∃ req ∈ (exec rejectedWrite).rdma.accepted, req.key = (0, 1) ∧
      (exec rejectedWrite).waiters (0, 1) = some { op_type := .INIT, phase := .searching } := by
    decide +kernel
  obtain ⟨req, hreq, hkey, hwait⟩ := hfirst
  obtain ⟨⟨i, hi, hid, -⟩, -⟩ := h req hreq fun ⟨w, hw, hphase⟩ => by
    rw [hkey, hwait] at hw
    obtain rfl := Option.some.inj hw
    rcases hphase with hp | hp <;> cases hp
  have h1 : req.request_id = 1 := congrArg Prod.snd hkey
  exact hgone i hi (hid.trans h1)

/-- Two requests are served, and one of them is collected. -/
def collectedOnce : List Step :=
  [request 0 .INIT, request 0 .ALLOCATE, .drain fun _ => true, .search 0 1, .read 0 1]

theorem outcomes_survive_collectedOnce :
    (∀ t ∈ collectedOnce, t.OfProcess 0) ∧ Guarded.Meets step KeepsSlots collectedOnce {} ∧
      (exec collectedOnce).OutcomesSurvive := by
  have hone : ∀ t ∈ collectedOnce, t.OfProcess 0 := by
    simp [collectedOnce, request, Step.OfProcess]
  have hrun : Guarded.Meets step KeepsSlots collectedOnce {} := by decide +kernel
  exact ⟨hone, hrun, outcomes_survive_of_slots_free hone hrun⟩

/-! ## Any processes: a wait reports the caller's request -/

/-- The server processed the request `key` of this process to `RDMA_REQ_COMPLETED`, and `f` of
its answer is `x`. -/
def Completed {β : Type} (s : Rdma) (key : Key) (f : Request → β) (x : β) : Prop :=
  ∃ p ∈ s.served, p.1.key = key ∧ p.2.status = .COMPLETED ∧ f p.2 = x

/-- Every wait that returned `0`, and every address that was taken, is that of the caller's own
request. -/
def ReportsOwn (s : Clients) : Prop :=
  (∀ r ∈ s.returns, Completed s.rdma r.key Request.error_code r.error_code) ∧
    ∀ a ∈ s.addresses, Completed s.rdma a.1 Request.remote_addr a.2

/-- What a client has found is the slot of its own request, and what was returned is right. -/
structure OwnInv (s : Clients) : Prop extends Kept true s where
  found : ∀ key w i, s.waiters key = some w → w.phase = .found i →
    i < MAX_RDMA_REQUESTS ∧ (s.rdma.requests i).request_id = key.2 ∧
      (s.rdma.requests i).status ≠ .PENDING
  collecting : ∀ key w, s.waiters key = some w → w.phase = .collecting →
    ∃ p ∈ s.rdma.served, p.1.key = key ∧ p.2.status = .COMPLETED
  own : s.ReportsOwn

theorem ownInv_start : OwnInv {} where
  toKept := kept_start true
  found := fun _ _ _ h => nomatch h
  collecting := fun _ _ h => nomatch h
  own := ⟨fun _ h => (nomatch h), fun _ h => (nomatch h)⟩

/-- The log of the server only grows. -/
theorem ReportsOwn.mono (h : s.ReportsOwn) {rdma : Rdma}
    (hserved : ∀ p ∈ s.rdma.served, p ∈ rdma.served) : ReportsOwn { s with rdma := rdma } :=
  ⟨fun r hr => (h.1 r hr).imp fun p hp => ⟨hserved p hp.1, hp.2⟩,
    fun a ha => (h.2 a ha).imp fun p hp => ⟨hserved p hp.1, hp.2⟩⟩

/-- The slot that a client found is its own, and holds the answer. -/
theorem OwnInv.found_own (h : s.OwnInv) {i : ℕ} (hw : s.waiters key = some w)
    (hphase : w.phase = .found i) :
    s.rdma.Holds key i ∧ ∃ p ∈ s.rdma.served, p.1.key = key ∧ p.2 = s.rdma.requests i := by
  have hneeds : w.phase.Needs true := by
    rw [hphase]
    trivial
  obtain ⟨j, hj⟩ := h.kept key w hw hneeds
  obtain ⟨hi, hid, hstatus⟩ := h.found key w i hw hphase
  obtain rfl := hj.unique h.distinct (h.known key w hw).1.ne' hi hid
  exact ⟨hj, hj.answer h.order hstatus⟩

theorem OwnInv.submitted (h : s.OwnInv) {client id : ℕ} {op_type : RdmaOp} {rdma : Rdma}
    (hsub : Rdma.Submitted s.rdma client op_type id rdma) (horder : rdma.OrderInv)
    (hguard : s.rdma.count < MAX_RDMA_REQUESTS → s.SlotFree true ∧ s.rdma.NumberFree client) :
    (s.submitted client op_type id rdma).OwnInv := by
  have hkept := h.toKept.submitted hsub horder hguard
  rcases hsub.filled with ⟨rfl, rfl⟩ | ⟨req, hf, -⟩
  · exact h
  · obtain ⟨hslot, -⟩ := hguard hf.free
    -- a client that was there before is as far as it was
    have hold : ∀ key w, (s.submitted client op_type id rdma).waiters key = some w →
        w.phase = .searching ∨ s.waiters key = some w := by
      intro key w hw
      unfold Clients.submitted at hw
      split at hw
      · exact Or.inr hw
      · simp only [Function.update_apply] at hw
        split at hw
        · obtain rfl := Option.some.inj hw
          exact Or.inl rfl
        · exact Or.inr hw
    have hrdma : (s.submitted client op_type id rdma).rdma = rdma := by
      unfold Clients.submitted
      split <;> rfl
    refine ⟨hkept, fun key w i hw hphase => ?_, fun key w hw hphase => ?_, ?_⟩
    · rcases hold key w hw with hs | hw
      · rw [hs] at hphase
        cases hphase
      · -- its slot is not the one that is overwritten
        have hi : i ≠ s.rdma.tail := by
          rintro rfl
          refine hslot w ?_ (by rw [hphase]; trivial)
          rw [(h.found_own hw hphase).1.named]
          exact hw
        rw [hrdma, hf.requests, Function.update_of_ne hi]
        exact h.found key w i hw hphase
    · rcases hold key w hw with hs | hw
      · rw [hs] at hphase
        cases hphase
      · rw [hrdma, hf.served]
        exact h.collecting key w hw hphase
    · have hown : ReportsOwn { s with rdma := rdma } :=
        h.own.mono fun p hp => by rw [hf.served]; exact hp
      unfold Clients.submitted
      split <;> exact hown

theorem OwnInv.process_one (h : s.OwnInv) (split : Bool) (hpos : 0 < s.rdma.count) :
    OwnInv { s with rdma := s.rdma.process_one split } := by
  obtain ⟨answer, ha⟩ := h.order.process_one_answered split hpos
  refine ⟨h.toKept.process_one split hpos, fun key w i hw hphase => ?_, fun key w hw hphase => ?_,
    h.own.mono fun p hp => ha.mem_served hp⟩
  · obtain ⟨hi, hid, hstatus⟩ := h.found key w i hw hphase
    -- the slot at `head` is pending, so the slot that was found is another one
    have hhead : i ≠ s.rdma.head := by
      rintro rfl
      exact hstatus (h.order.queue_pending (h.order.ring.queue_head hpos))
    show i < _ ∧ ((s.rdma.process_one split).requests i).request_id = _ ∧ _
    rw [ha.requests, Function.update_of_ne hhead]
    exact ⟨hi, hid, hstatus⟩
  · obtain ⟨p, hp, hrest⟩ := h.collecting key w hw hphase
    exact ⟨p, ha.mem_served hp, hrest⟩

/-- The client of a request moves on to a phase that is justified. -/
theorem OwnInv.setPhase (h : s.OwnInv) (hw : s.waiters key = some w) {phase : WaitPhase}
    (hp : phase.Needs true → w.phase.Needs true)
    (hfound : ∀ i, phase = .found i → i < MAX_RDMA_REQUESTS ∧
      (s.rdma.requests i).request_id = key.2 ∧ (s.rdma.requests i).status ≠ .PENDING)
    (hcoll : phase = .collecting → ∃ p ∈ s.rdma.served, p.1.key = key ∧ p.2.status = .COMPLETED) :
    (s.setPhase key w phase).OwnInv := by
  refine ⟨h.toKept.setPhase hw hp, fun key' w' i hw' hphase => ?_,
    fun key' w' hw' hphase => ?_, h.own⟩
  · rcases setPhase_cases hw' with ⟨rfl, rfl⟩ | ⟨-, hw'⟩
    · exact hfound i hphase
    · exact h.found key' w' i hw' hphase
  · rcases setPhase_cases hw' with ⟨rfl, rfl⟩ | ⟨-, hw'⟩
    · exact hcoll hphase
    · exact h.collecting key' w' hw' hphase

/-- Another entry of the logs of the clients. -/
theorem OwnInv.of_log (h : s.OwnInv) {returns : List WaitReturn} {addresses : List (Key × ℕ)}
    (hr : ∀ r ∈ returns, Completed s.rdma r.key Request.error_code r.error_code)
    (ha : ∀ a ∈ addresses, Completed s.rdma a.1 Request.remote_addr a.2) :
    OwnInv { s with returns := returns, addresses := addresses } :=
  ⟨h.toKept.of_log _ _, h.found, h.collecting, hr, ha⟩

/-- A slot that reports success is completed. -/
theorem wait_result_returned {req : Request} {error_code : Option Errno}
    (h : wait_result req = .returned error_code) :
    req.status = .COMPLETED ∧ req.error_code = error_code := by
  unfold wait_result at h
  split at h
  · rename_i hstatus
    split at h
    · cases h
    · injection h with h
      exact ⟨hstatus, h⟩
  · cases h
  · cases h

theorem OwnInv.read_slot (h : s.OwnInv) {i : ℕ} (hw : s.waiters key = some w)
    (hphase : w.phase = .found i) : (s.read_slot key w i).OwnInv := by
  have hneeds : w.phase.Needs true := by
    rw [hphase]
    trivial
  obtain ⟨-, p, hp, hkey, hans⟩ := h.found_own hw hphase
  unfold Clients.read_slot
  split
  · exact h.setPhase hw (fun _ => hneeds) (fun _ he => nomatch he) fun he => nomatch he
  · exact h.setPhase hw (fun _ => hneeds) (fun _ he => nomatch he) fun he => nomatch he
  · rename_i error_code hres
    obtain ⟨hstatus, herror⟩ := wait_result_returned hres
    rw [← hans] at hstatus herror
    have hnext :
        (s.setPhase key w (if w.op_type = .ALLOCATE then .collecting else .done)).OwnInv := by
      refine h.setPhase hw (fun _ => hneeds) (fun i he => ?_) fun _ => ⟨p, hp, hkey, hstatus⟩
      split at he <;> cases he
    refine hnext.of_log (fun r hr => ?_) h.own.2
    rcases List.mem_cons.mp hr with rfl | hr
    · exact ⟨p, hp, hkey, hstatus, herror⟩
    · exact h.own.1 r hr

theorem OwnInv.take_address (h : s.OwnInv) (hw : s.waiters key = some w)
    (hphase : w.phase = .collecting) : (s.take_address key w).OwnInv := by
  have hdone : (s.setPhase key w .done).OwnInv :=
    h.setPhase hw (fun hd => hd.elim) (fun _ he => nomatch he) fun he => nomatch he
  unfold Clients.take_address
  split
  · rename_i i hi
    refine hdone.of_log h.own.1 fun a ha => ?_
    rcases List.mem_cons.mp ha with rfl | ha
    · obtain ⟨hlt, hid⟩ := Rdma.find_address_spec hi
      obtain ⟨j, hj⟩ := h.kept key w hw (by rw [hphase]; rfl)
      obtain rfl := hj.unique h.distinct (h.known key w hw).1.ne' hlt hid
      -- the request was served, so the slot holds its answer
      obtain ⟨p, hp, hkey, hstatus⟩ := h.collecting key w hw hphase
      rcases hj.truth with hq | ⟨q, hq, hqk, hans⟩
      · exact absurd (hkey.trans hj.named.symm) (h.order.not_served_of_queue hq.mem hp)
      · obtain rfl := h.order.answer_unique hp hq (hkey.trans hqk.symm)
        exact ⟨p, hp, hkey, hstatus, by rw [hans]⟩
    · exact h.own.2 a ha
  · exact hdone

theorem OwnInv.step (h : s.OwnInv) {t : Step} (hguard : s.Guard true t) : (step t s).OwnInv := by
  cases t with
  | submit client op_type local_addr remote_addr size data =>
      exact h.submitted (Rdma.submit_submitted s.rdma client op_type local_addr remote_addr size
        data false) (h.order.submit client op_type local_addr remote_addr size data false) hguard
  | drain split =>
      exact Rdma.drain_invariant (I := fun r => OwnInv { s with rdma := r })
        (fun split r hr hpos => hr.process_one split hpos) split h
  | search client request_id =>
      rcases search_cases s client request_id with he | ⟨w, i, hw, hphase, hi, he⟩ <;> rw [he]
      · exact h
      · refine h.setPhase hw (fun _ => by rw [hphase]; trivial) (fun j hj => ?_) fun he => nomatch he
        injection hj with hj
        rw [← hj]
        exact Rdma.find_slot_spec hi
  | read client request_id =>
      rcases read_cases s client request_id with he | ⟨w, i, hw, hphase, he⟩ <;> rw [he]
      · exact h
      · exact h.read_slot hw hphase
  | address client request_id =>
      rcases address_cases s client request_id with he | ⟨w, hw, hphase, he⟩ <;> rw [he]
      · exact h
      · exact h.take_address hw hphase
  | give_up client request_id =>
      rcases give_up_cases s client request_id with he | ⟨w, hw, -, he⟩ <;> rw [he]
      · exact h
      · exact h.setPhase hw (fun hd => hd.elim) (fun _ he => nomatch he) fun he => nomatch he

/-- **Own requests.** In every run of any number of processes whose submits overwrite no slot
that is still needed and take no number that a slot of another process has, a wait that returns
`0` was for a request of the caller that the server completed, and the error code and the
address that it reports are those of this request. -/
theorem wait_reports_own_of_guard {run : List Step}
    (hrun : Guarded.Meets step (Guard true) run {}) : (exec run).ReportsOwn := by
  have hinv : (exec run).OwnInv :=
    Guarded.exec_invariant (I := OwnInv) (fun s t hs ht => hs.step ht) ownInv_start hrun
  exact hinv.own

/-- A process attaches after another one. The first request of each has the number 1. -/
def secondProcess : List Step :=
  [request 0 .INIT, .drain fun _ => true, request 1 .ALLOCATE, .search 1 1, .read 1 1]

/-- The second process finds the slot of the first: its wait returns `0` before the server has
seen its request. -/
theorem wait_reports_other_secondProcess : ¬ (exec secondProcess).ReportsOwn := by
  intro h
  have hret : ∃ r ∈ (exec secondProcess).returns, r.key = (1, 1) := by decide +kernel
  have hserved : ∀ p ∈ (exec secondProcess).rdma.served, p.1.key ≠ (1, 1) := by decide +kernel
  obtain ⟨r, hr, hkey⟩ := hret
  obtain ⟨p, hp, hpk, -⟩ := h.1 r hr
  exact hserved p hp (hpk.trans hkey)

/-- The first number of a process went to a write that was rejected, and its slot to the next
request. Then no slot has the number 1, and a second process may begin. -/
def twoProcesses : List Step :=
  [.submit 0 .WRITE 0 0 4097 (some fun _ => 0), request 0 .INIT, request 1 .ALLOCATE,
    .drain fun _ => true, .search 1 1, .read 1 1, .search 0 2, .read 0 2, .address 1 1]

theorem wait_reports_own_twoProcesses :
    Guarded.Meets step (Guard true) twoProcesses {} ∧ (exec twoProcesses).ReportsOwn := by
  have hrun : Guarded.Meets step (Guard true) twoProcesses {} := by decide +kernel
  exact ⟨hrun, wait_reports_own_of_guard hrun⟩

end Clients

end SwapPrefetch
