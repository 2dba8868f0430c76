import Mathlib.Data.List.Basic
import Mathlib.Data.List.Nodup
import Mathlib.Data.List.Perm.Basic
import ShootingStar.Lib.Transition

/-!
# The resource pool

A pool owns `pool_size` resources and lends them out in leases.  A lease gives its resource
back when it is destroyed or assigned to, and passes it on when it is moved from.

The system is one pool and the lease objects of all its clients.  Every pool operation is one
step, since it holds the mutex.  `Lease::Release` clears its lease after the pool operation, so
other clients may run in between; `resume` is the rest of the call.  A lease object is touched
by one client at a time.  The optional that `Acquire` returns is built by moving the lease made
there, which is one of the moves of the system.

In every reachable state the available resources and the held ones are exactly the created
ones (`run_conserves`).
-/

variable {ρ : Type*}

/-! ### The pool and its leases -/

/-- `pool_` and `resource_` of a lease: whether it points at the pool, and its resource.  Both
are null or none is. -/
structure Lease (ρ : Type*) where
  pool : Bool := false
  resource : Option ρ := none
  paired : pool = resource.isSome := by rfl

/-- The resources the pool owns, and those it has not lent out. -/
structure ResourcePool (ρ : Type*) where
  resources : List ρ
  available : List ρ

namespace ResourcePool

/-- The resources of the constructor's loop: call `i` of the factory gives the `i`-th. -/
def produce (factory : ℕ → Option ρ) : List ℕ → Except String (List ρ)
  | [] => .ok []
  | i :: is =>
    match factory i with
    | none => .error "ResourcePool factory returned null resource"
    | some resource => (produce factory is).map (resource :: ·)

/-- The constructor; an empty `std::function` is `none`. -/
def create (poolSize : ℕ) (factory : Option (ℕ → Option ρ)) : Except String (ResourcePool ρ) :=
  if poolSize = 0 then .error "ResourcePool pool_size must be greater than zero"
  else
    match factory with
    | none => .error "ResourcePool factory must not be empty"
    | some factory => (produce factory (List.range poolSize)).map fun rs => ⟨rs, rs⟩

/-- `Acquire`: the pool afterwards, and the lease unless the call times out.  The wait ends with
an available resource or at the timeout. -/
def acquire (p : ResourcePool ρ) : ResourcePool ρ × Option (Lease ρ) :=
  match p.available.getLast? with
  | none => (p, none)
  | some resource => ({ p with available := p.available.dropLast }, some ⟨true, some resource, rfl⟩)

/-- `Release`: a resource that is already available is not added again. -/
def release [DecidableEq ρ] (resource : ρ) (p : ResourcePool ρ) : ResourcePool ρ :=
  if resource ∈ p.available then p else { p with available := p.available ++ [resource] }

end ResourcePool

/-- The resource `Lease::Release` passes to the pool, if it calls it. -/
def Lease.toRelease (lease : Lease ρ) : Option ρ :=
  if lease.pool then lease.resource else none

theorem Lease.toRelease_eq (lease : Lease ρ) :
  lease.toRelease = lease.resource
  := by
  obtain ⟨pool, _ | resource, rfl⟩ := lease <;> rfl

/-! ### The system -/

namespace ResourcePool

/-- What follows `Release` in the member function that called it. -/
inductive Next where
  | destroy
  | assign (src : ℕ)

/-- A lease object: alive, between the pool operation and the clearing of `Lease::Release`, or
destroyed. -/
inductive Object (ρ : Type*) where
  | live (lease : Lease ρ)
  | releasing (lease : Lease ρ) (next : Next)
  | destroyed

/-- The pool and the lease objects, each at its own address. -/
structure System (ρ : Type*) where
  pool : ResourcePool ρ
  leases : List (Object ρ)

/-- The steps of the clients. -/
inductive Action where
  | acquire
  | construct
  | moveConstruct (src : ℕ)
  | moveAssign (dst src : ℕ)
  | destroy (lease : ℕ)
  | resume (lease : ℕ)

namespace System

/-- The rest of a destructor or a move assignment, once the lease at `a` has let go of its
resource. -/
def proceed (s : System ρ) (a : ℕ) : Next → Option (System ρ)
  | .destroy => some { s with leases := s.leases.set a .destroyed }
  | .assign src =>
    match s.leases[src]? with
    | some (.live other) =>
      some { s with leases := (s.leases.set a (.live other)).set src (.live {}) }
    | _ => none

variable [DecidableEq ρ]

/-- `Lease::Release` on the lease at `a`, up to the end of the pool operation. -/
def release (s : System ρ) (a : ℕ) (lease : Lease ρ) (next : Next) : Option (System ρ) :=
  match lease.toRelease with
  | some resource =>
    some { pool := s.pool.release resource, leases := s.leases.set a (.releasing lease next) }
  | none => s.proceed a next

/-- One step of a client; an action on an object that is not alive is not enabled. -/
def step (s : System ρ) : Action → Option (System ρ)
  | .acquire =>
    match s.pool.acquire with
    | (pool, some lease) => some { pool := pool, leases := s.leases ++ [.live lease] }
    | (pool, none) => some { s with pool := pool }
  | .construct => some { s with leases := s.leases ++ [.live {}] }
  | .moveConstruct src =>
    match s.leases[src]? with
    | some (.live other) =>
      some { s with leases := s.leases.set src (.live {}) ++ [.live other] }
    | _ => none
  | .moveAssign dst src =>
    match s.leases[dst]?, s.leases[src]? with
    | some (.live lease), some (.live _) =>
      if dst = src then some s else s.release dst lease (.assign src)
    | _, _ => none
  | .destroy a =>
    match s.leases[a]? with
    | some (.live lease) => s.release a lease .destroy
    | _ => none
  | .resume a =>
    match s.leases[a]? with
    | some (.releasing _ next) => s.proceed a next
    | _ => none

/-- The resource a step passes to the pool's `Release`. -/
def released (s : System ρ) : Action → Option ρ
  | .moveAssign dst src =>
    match s.leases[dst]?, s.leases[src]? with
    | some (.live lease), some (.live _) => if dst = src then none else lease.toRelease
    | _, _ => none
  | .destroy a =>
    match s.leases[a]? with
    | some (.live lease) => lease.toRelease
    | _ => none
  | _ => none

/-! ### Conservation -/

end System

/-- The resource a lease object holds. -/
def Object.holds : Object ρ → Option ρ
  | .live lease => lease.resource
  | _ => none

/-- The resources held by leases. -/
def System.held (s : System ρ) : List ρ :=
  s.leases.filterMap Object.holds

/-- The leases that hold a resource. -/
def System.liveLeases (s : System ρ) : ℕ :=
  s.leases.countP (·.holds.isSome)

/-- The resources of the pool are the created ones, and so are the available and the held ones
together. -/
structure System.Conserves (created : List ρ) (s : System ρ) : Prop where
  resources : s.pool.resources = created
  conserved : (s.pool.available ++ s.held).Perm created

/-- Replacing one entry exchanges what it holds. -/
theorem filterMap_set_perm {α : Type*} (f : α → Option ρ) {l : List α} {a : ℕ} {x : α}
    (h : l[a]? = some x) (y : α) :
  ((f x).toList ++ (l.set a y).filterMap f).Perm ((f y).toList ++ l.filterMap f)
  := by
  induction l generalizing a with
  | nil => simp at h
  | cons z l ih =>
      cases a with
      | zero =>
          obtain rfl : z = x := by simpa using h
          cases hz : f z <;> cases hy : f y <;> simp [hz, hy, List.Perm.swap]
      | succ a =>
          have hl : l[a]? = some x := by simpa using h
          cases hz : f z with
          | none => simpa [hz] using ih hl
          | some r =>
              simp only [List.set_cons_succ, List.filterMap_cons, hz]
              calc ((f x).toList ++ r :: (l.set a y).filterMap f).Perm
                    (r :: ((f x).toList ++ (l.set a y).filterMap f)) := List.perm_middle
                List.Perm _ (r :: ((f y).toList ++ l.filterMap f)) := (ih hl).cons r
                List.Perm _ ((f y).toList ++ r :: l.filterMap f) := List.perm_middle.symm

namespace System

/-- Replacing one object exchanges what it holds. -/
theorem held_set_perm {s : System ρ} {a : ℕ} {x : Object ρ} (h : s.leases[a]? = some x)
    (y : Object ρ) :
  (x.holds.toList ++ (s.leases.set a y).filterMap Object.holds).Perm (y.holds.toList ++ s.held)
  := filterMap_set_perm Object.holds h y

/-- A lease's resource is held. -/
theorem mem_held {s : System ρ} {a : ℕ} {lease : Lease ρ} (h : s.leases[a]? = some (.live lease))
    {resource : ρ} (hr : lease.resource = some resource) :
  resource ∈ s.held
  := List.mem_filterMap.mpr ⟨.live lease, List.mem_of_getElem? h, hr⟩

variable {created : List ρ}

/-- The available and the held resources are distinct. -/
theorem Conserves.nodup {s : System ρ} (hs : Conserves created s) (hc : created.Nodup) :
  (s.pool.available ++ s.held).Nodup
  := hs.conserved.nodup_iff.mpr hc

/-- A held resource is not available. -/
theorem Conserves.not_mem_available {s : System ρ} (hs : Conserves created s)
    (hc : created.Nodup) {resource : ρ} (h : resource ∈ s.held) :
  resource ∉ s.pool.available
  := fun hmem => (List.nodup_append.mp (hs.nodup hc)).2.2 resource hmem resource h rfl

/-- What follows `Lease::Release` keeps the resources together. -/
theorem Conserves.proceed {s s' : System ρ} (hs : Conserves created s) {a : ℕ} {x : Object ρ}
    (hx : s.leases[a]? = some x) (hholds : x.holds = none) {next : Next}
    (h : s.proceed a next = some s') :
  Conserves created s'
  := by
  cases next with
  | destroy =>
      obtain rfl := Option.some.inj h
      have hset := held_set_perm hx .destroyed
      rw [hholds] at hset
      use hs.resources
      exact (hset.append_left _).trans hs.conserved
  | assign src =>
      simp only [System.proceed] at h
      split at h
      next other hother =>
        obtain rfl := Option.some.inj h
        have hfirst := held_set_perm hx (.live other)
        rw [hholds] at hfirst
        have hsrc : (s.leases.set a (.live other))[src]? = some (.live other) := by
          rw [List.getElem?_set]
          split
          · obtain ⟨ha, -⟩ := List.getElem?_eq_some_iff.mp hx
            rw [if_pos ha]
          · exact hother
        have hsecond := filterMap_set_perm Object.holds hsrc (.live {})
        have hheld := (List.perm_append_left_iff _).mp (hsecond.trans hfirst)
        use hs.resources
        exact (hheld.append_left _).trans hs.conserved
      · cases h

variable [DecidableEq ρ]

/-- `Lease::Release` keeps the resources together. -/
theorem Conserves.release {s s' : System ρ} (hs : Conserves created s) (hc : created.Nodup)
    {a : ℕ} {lease : Lease ρ} (hlease : s.leases[a]? = some (.live lease)) {next : Next}
    (h : s.release a lease next = some s') :
  Conserves created s'
  := by
  simp only [System.release, Lease.toRelease_eq] at h
  split at h
  next resource hr =>
    obtain rfl := Option.some.inj h
    have hset := held_set_perm hlease (.releasing lease next)
    simp only [Object.holds, hr] at hset
    have hnot := hs.not_mem_available hc (mem_held hlease hr)
    simp only [ResourcePool.release, if_neg hnot]
    use hs.resources
    rw [List.append_assoc]
    exact (hset.append_left _).trans hs.conserved
  next hr => exact hs.proceed hlease hr h

/-- An acquired resource is held and no longer available. -/
theorem Conserves.acquire {s s' : System ρ} (hs : Conserves created s)
    (h : s.step .acquire = some s') :
  Conserves created s'
  := by
  simp only [System.step, ResourcePool.acquire] at h
  cases hlast : s.pool.available.getLast? with
  | none =>
      rw [hlast] at h
      obtain rfl := Option.some.inj h
      exact hs
  | some resource =>
      rw [hlast] at h
      obtain rfl := Option.some.inj h
      use hs.resources
      obtain ⟨available, havailable⟩ := List.getLast?_eq_some_iff.mp hlast
      have hperm := hs.conserved
      rw [havailable] at hperm
      simp only [held, havailable, List.dropLast_concat, List.filterMap_append] at hperm ⊢
      apply List.Perm.trans _ hperm
      rw [List.append_assoc]
      exact List.perm_append_comm.append_left available

/-- A new lease takes over the resource of another. -/
theorem Conserves.moveConstruct {s s' : System ρ} (hs : Conserves created s) {src : ℕ}
    (h : s.step (.moveConstruct src) = some s') :
  Conserves created s'
  := by
  simp only [System.step] at h
  split at h
  next other hother =>
    obtain rfl := Option.some.inj h
    have hset := held_set_perm hother (.live {})
    use hs.resources
    simp only [held, List.filterMap_append]
    apply List.Perm.trans _ hs.conserved
    apply List.Perm.append_left
    apply List.perm_append_comm.trans
    cases hr : other.resource <;> simpa [Object.holds, hr] using hset
  · cases h

/-- Every step keeps the resources together. -/
theorem Conserves.step {s s' : System ρ} (hs : Conserves created s) (hc : created.Nodup)
    {act : Action} (h : s.step act = some s') :
  Conserves created s'
  := by
  cases act with
  | acquire => exact hs.acquire h
  | construct =>
      obtain rfl := Option.some.inj h
      use hs.resources
      simpa [held, Object.holds, List.filterMap_cons] using hs.conserved
  | moveConstruct src => exact hs.moveConstruct h
  | moveAssign dst src =>
      simp only [System.step] at h
      split at h
      next lease other hlease hother =>
        split at h
        · obtain rfl := Option.some.inj h
          exact hs
        · exact hs.release hc hlease h
      · cases h
  | destroy a =>
      simp only [System.step] at h
      split at h
      next lease hlease => exact hs.release hc hlease h
      · cases h
  | resume a =>
      simp only [System.step] at h
      split at h
      next lease next hlease => exact hs.proceed hlease rfl h
      · cases h

omit [DecidableEq ρ] in
/-- The resource a step passes to the pool's `Release` is held by a lease. -/
theorem mem_held_of_released {s : System ρ} {act : Action} {resource : ρ}
    (h : s.released act = some resource) :
  resource ∈ s.held
  := by
  cases act with
  | moveAssign dst src =>
      simp only [released, Lease.toRelease_eq] at h
      split at h
      next lease other hlease hother =>
        split at h
        · cases h
        · exact mem_held hlease h
      · cases h
  | destroy a =>
      simp only [released, Lease.toRelease_eq] at h
      split at h
      next lease hlease => exact mem_held hlease h
      · cases h
  | _ => cases h

omit [DecidableEq ρ] in
/-- When the held resources are distinct, two leases hold different ones. -/
theorem address_eq_of_held {s : System ρ} (hs : s.held.Nodup) {a b : ℕ} {x y : Object ρ}
    (ha : s.leases[a]? = some x) (hb : s.leases[b]? = some y) {resource : ρ}
    (hx : x.holds = some resource) (hy : y.holds = some resource) :
  a = b
  := by
  obtain ⟨hlta, rfl⟩ := List.getElem?_eq_some_iff.mp ha
  obtain ⟨hltb, rfl⟩ := List.getElem?_eq_some_iff.mp hb
  have hpair := List.pairwise_iff_getElem.mp (List.pairwise_filterMap.mp hs)
  rcases Nat.lt_trichotomy a b with hlt | rfl | hlt
  · exact absurd rfl (hpair a b hlta hltb hlt resource hx resource hy)
  · rfl
  · exact absurd rfl (hpair b a hltb hlta hlt resource hy resource hx)

omit [DecidableEq ρ] in
theorem length_held (s : System ρ) :
  s.held.length = s.liveLeases
  := by
  rw [held, liveLeases, List.length_filterMap_eq_countP]

end System

/-! ### Runs from the constructor -/

/-- A factory that never returns null produces one resource a call. -/
theorem produce_eq {factory : ℕ → Option ρ} {resource : ℕ → ρ} {is : List ℕ}
    (h : ∀ i ∈ is, factory i = some (resource i)) :
  produce factory is = .ok (is.map resource)
  := by
  induction is with
  | nil => rfl
  | cons i is ih =>
      rw [produce, h i List.mem_cons_self, ih (fun j hj => h j (List.mem_cons_of_mem _ hj))]
      rfl

variable [DecidableEq ρ]

/-- In every reachable state of a pool with `n` distinct resources, the available list has no
duplicates, two leases never hold the same resource, a held resource is not available, the
available and the held resources are together the created ones, and a step never releases a
resource that is available. -/
theorem run_conserves {n : ℕ} (hn : 0 < n) {factory : ℕ → Option ρ} {resource : ℕ → ρ}
    (hfactory : ∀ i < n, factory i = some (resource i))
    (hdistinct : ∀ i < n, ∀ j < n, resource i = resource j → i = j) :
  ∃ pool, create n (some factory) = .ok pool
    ∧ ∀ acts (s : System ρ), Transition.run System.step ⟨pool, []⟩ acts = some s →
      s.pool.available.Nodup
      ∧ (∀ (a b : ℕ) (lease lease' : Lease ρ) (r : ρ), s.leases[a]? = some (.live lease) →
          s.leases[b]? = some (.live lease') → lease.resource = some r →
          lease'.resource = some r → a = b)
      ∧ (∀ (a : ℕ) (lease : Lease ρ) (r : ρ), s.leases[a]? = some (.live lease) →
          lease.resource = some r → r ∉ s.pool.available)
      ∧ (s.pool.available ++ s.held).Perm ((List.range n).map resource)
      ∧ s.pool.available.length = n - s.liveLeases
      ∧ (∀ act r, s.released act = some r → r ∉ s.pool.available)
  := by
  have hproduce : produce factory (List.range n) = .ok ((List.range n).map resource) :=
    produce_eq (fun i hi => hfactory i (List.mem_range.mp hi))
  have hcreated : ((List.range n).map resource).Nodup := by
    apply List.Nodup.map_on _ List.nodup_range
    intro i hi j hj
    exact hdistinct i (List.mem_range.mp hi) j (List.mem_range.mp hj)
  use ⟨(List.range n).map resource, (List.range n).map resource⟩
  constructor
  · simp [create, Nat.pos_iff_ne_zero.mp hn, hproduce, Except.map]
  intro acts s hrun
  have hs : System.Conserves ((List.range n).map resource) s := by
    apply Transition.run_invariant (fun _ _ _ h hstep => System.Conserves.step h hcreated hstep)
      _ hrun
    exact ⟨rfl, by simp [System.held]⟩
  have hnodup := List.nodup_append.mp (hs.nodup hcreated)
  refine ⟨hnodup.1, ?_, ?_, hs.conserved, ?_, ?_⟩
  · intro a b lease lease' r ha hb hr hr'
    exact System.address_eq_of_held hnodup.2.1 ha hb hr hr'
  · intro a lease r ha hr
    exact hs.not_mem_available hcreated (System.mem_held ha hr)
  · have hlen := hs.conserved.length_eq
    rw [List.length_append, System.length_held, List.length_map, List.length_range] at hlen
    omega
  · intro act r hr
    exact hs.not_mem_available hcreated (System.mem_held_of_released hr)

/-- Every run of a pool of two resources conserves them. -/
theorem run_conserves_two :
  ∃ pool : ResourcePool ℕ, create 2 (some fun i => some (i + 10)) = .ok pool
    ∧ ∀ acts (s : System ℕ), Transition.run System.step ⟨pool, []⟩ acts = some s →
      (s.pool.available ++ s.held).Perm ([10, 11])
  := by
  obtain ⟨pool, hpool, hrun⟩ := run_conserves (by decide : 0 < 2)
    (fun i _ => (rfl : (fun i => some (i + 10)) i = some ((fun i => i + 10) i))) (by simp)
  exact ⟨pool, hpool, fun acts s hs => (hrun acts s hs).2.2.2.1⟩

end ResourcePool
