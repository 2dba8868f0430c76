import ShootingStar.Lib.Interleaving
import ShootingStar.Utilities.LruCache

/-!
# Lookups through a cache

A lookup of a key first asks the cache.  When the cache finds nothing it reads the backing store,
and puts what it finds there in the cache.  These steps are not atomic: other calls and changes of
the backing store come between them.

A call looks up one key or several, one after the other.  In every interleaving of calls each of
them is answered as `Transparent` tells: with what the backing store returned for the same key, in
the same lookup or in one that put it in the cache less than `ttl` before (`transparent`).
-/

open Interleaving (Reaches eventsOf)

namespace CachedLookup

variable {κ ν : Type}

/-! ### Operations -/

/-- An operation of a lookup, with the position of the lookup in its call. -/
inductive Op (κ ν : Type) where
  | get (position : ℕ) (key : κ)
  | read (position : ℕ) (key : κ)
  | put (position : ℕ) (key : κ) (value : ν)

/-- What is replied: the cache tells the clock reading and what it found, and the backing store
what it found or the message of the exception it threw. -/
def Reply : Op κ ν → Type
  | .get _ _ => ℤ × Option ν
  | .read _ _ => Except String (Option ν)
  | .put _ _ _ => ℤ

/-- The cache and the contents of the backing store. -/
structure State (κ ν : Type) where
  cache : LruCache κ ν
  backing : κ → Option ν

/-- What an operation may reply and leave.  Any read may throw. -/
def Handles [DecidableEq κ] (s : State κ ν) : (op : Op κ ν) → Reply op → State κ ν → Prop
  | .get _ key, (now, found), s' =>
    s.cache.get now key = some (s'.cache, found) ∧ s'.backing = s.backing
  | .read _ key, answer, s' =>
    s' = s ∧ (answer = .ok (s.backing key) ∨ ∃ message, answer = .error message)
  | .put _ key value, now, s' =>
    s.cache.put now key value = some s'.cache ∧ s'.backing = s.backing

/-- The backing store may get any of some contents at any time. -/
def Changes (contents : Set (κ → Option ν)) (s s' : State κ ν) : Prop :=
  s'.cache = s.cache ∧ s'.backing ∈ contents

/-! ### Programs -/

/-- What a lookup does with the answer of the backing store. -/
def store (position : ℕ) (key : κ) :
    Except String (Option ν) → Program (Reply (κ := κ) (ν := ν)) (Except String (Option ν))
  | .error message => .done (.error message)
  | .ok none => .done (.ok none)
  | .ok (some value) => .perform (.put position key value) fun _ => .done (.ok (some value))

/-- The lookup of a key. -/
def find (position : ℕ) (key : κ) :
    Program (Reply (κ := κ) (ν := ν)) (Except String (Option ν)) :=
  .perform (.get position key) fun cached =>
    match cached with
    | (_, some value) => .done (.ok (some value))
    | (_, none) => .perform (.read position key) (store position key)

/-- The loop of a batch over its keys, with the answers so far. -/
def findAll (position : ℕ) (answers : List (Option ν)) :
    List κ → Program (Reply (κ := κ) (ν := ν)) (Except String (List (Option ν)))
  | [] => .done (.ok answers)
  | key :: keys =>
    (find position key).bind fun
      | .error message => .done (.error message)
      | .ok answer => findAll (position + 1) (answers ++ [answer]) keys

/-- The answer of a lookup as a list of one. -/
def asBatch (p : Program (Reply (κ := κ) (ν := ν)) (Except String (Option ν))) :
    Program (Reply (κ := κ) (ν := ν)) (Except String (List (Option ν))) :=
  p.map fun result => result.map ([·])

/-- The cache in front of a backing store as it is constructed, or the message of the exception
thrown when there is no backing store. -/
def create (message : String) (backing : Option (κ → Option ν)) (capacity : ℕ) (ttl : ℤ) :
    Except String (State κ ν) :=
  match backing with
  | none => .error message
  | some backing => .ok ⟨LruCache.init capacity ttl, backing⟩

theorem asBatch_find (key : κ) :
  asBatch (ν := ν) (find 0 key) = findAll 0 [] [key]
  := by
  rw [asBatch, Program.map, findAll]
  congr
  funext result
  cases result <;> rfl

/-! ### The operations of a call -/

/-- An operation of a lookup with its reply. -/
abbrev LookupEvent (κ ν : Type) := Event (Reply (κ := κ) (ν := ν))

/-- The position of the lookup of an operation. -/
def Op.position : Op κ ν → ℕ
  | .get position _ => position
  | .read position _ => position
  | .put position _ _ => position

/-- The key of an operation. -/
def Op.key : Op κ ν → κ
  | .get _ key => key
  | .read _ key => key
  | .put _ key _ => key

/-- What a lookup may have done: nothing, found the key in the cache or not, read the backing store
with some answer, and put the value read. -/
theorem runs_find {position : ℕ} {key : κ} {es : List (LookupEvent κ ν)}
    {q : Program (Reply (κ := κ) (ν := ν)) (Except String (Option ν))}
    (h : (find position key).Runs es q) :
  (es = [] ∧ q = find position key)
    ∨ (∃ now value, es = [⟨.get position key, (now, some value)⟩] ∧ q = .done (.ok (some value)))
    ∨ (∃ now, es = [⟨.get position key, (now, none)⟩]
        ∧ q = .perform (.read position key) (store position key))
    ∨ (∃ now answer, es = [⟨.get position key, (now, none)⟩, ⟨.read position key, answer⟩]
        ∧ q = store position key answer)
    ∨ ∃ now value t, es = [⟨.get position key, (now, none)⟩, ⟨.read position key, .ok (some value)⟩,
          ⟨.put position key value, t⟩]
        ∧ q = .done (.ok (some value))
  := by
  rcases Program.runs_perform.mp h with hstart | ⟨⟨now, _ | value⟩, es₁, rfl, hget⟩
  · exact Or.inl hstart
  · right; right
    rcases Program.runs_perform.mp hget with ⟨rfl, rfl⟩ | ⟨answer, es₂, rfl, hread⟩
    · exact Or.inl ⟨now, rfl, rfl⟩
    · right
      match answer, hread with
      | .error message, hread =>
        obtain ⟨rfl, rfl⟩ := Program.runs_done.mp hread
        exact Or.inl ⟨now, .error message, rfl, rfl⟩
      | .ok none, hread =>
        obtain ⟨rfl, rfl⟩ := Program.runs_done.mp hread
        exact Or.inl ⟨now, .ok none, rfl, rfl⟩
      | .ok (some value), hread =>
        rcases Program.runs_perform.mp hread with ⟨rfl, rfl⟩ | ⟨t, es₃, rfl, hput⟩
        · exact Or.inl ⟨now, .ok (some value), rfl, rfl⟩
        · obtain ⟨rfl, rfl⟩ := Program.runs_done.mp hput
          exact Or.inr ⟨now, value, t, rfl, rfl⟩
  · obtain ⟨rfl, rfl⟩ := Program.runs_done.mp hget
    exact Or.inr (Or.inl ⟨now, value, rfl, rfl⟩)

/-- The answer of the backing store, with the position and the key of the lookup. -/
def readAnswer : LookupEvent κ ν → Option (ℕ × κ × Except String (Option ν))
  | ⟨.read position key, answer⟩ => some (position, key, answer)
  | _ => none

theorem readAnswer_eq_some {e : LookupEvent κ ν} {position : ℕ} {key : κ}
    {answer : Except String (Option ν)} :
  readAnswer e = some (position, key, answer) ↔ e = ⟨.read position key, answer⟩
  := by
  constructor
  · intro h
    match e, h with
    | ⟨.read _ _, _⟩, rfl => rfl
  · rintro rfl
    rfl

theorem read_mem_iff {es : List (LookupEvent κ ν)} {position : ℕ} {key : κ}
    {answer : Except String (Option ν)} :
  ⟨.read position key, answer⟩ ∈ es ↔ some (position, key, answer) ∈ es.map readAnswer
  := by
  simp [readAnswer_eq_some]

/-- What is put was read by the same lookup. -/
def PutAfterRead (before : List (LookupEvent κ ν)) : LookupEvent κ ν → Prop
  | ⟨.put position key value, _⟩ => ⟨.read position key, .ok (some value)⟩ ∈ before
  | _ => True

/-- The operations of a call that looks up keys, the first of them at position `start`: each is
about the key at its position, a lookup reads the backing store once, and what is put was read. -/
structure Orderly (keys : List κ) (start : ℕ) (es : List (LookupEvent κ ν)) : Prop where
  key_eq : ∀ e ∈ es, start ≤ e.1.position ∧ keys[e.1.position - start]? = some e.1.key
  read_eq : ∀ position key (answer answer' : Except String (Option ν)),
    ⟨.read position key, answer⟩ ∈ es → ⟨.read position key, answer'⟩ ∈ es → answer = answer'
  put_after_read : Trace.EachAfter PutAfterRead es

theorem orderly_nil (keys : List κ) (start : ℕ) :
  Orderly keys start ([] : List (LookupEvent κ ν))
  := by
  constructor <;> simp

/-- A lookup that reads once has one answer. -/
theorem read_eq_of_map_readAnswer {es : List (LookupEvent κ ν)}
    {read : ℕ × κ × Except String (Option ν)}
    (h : ∀ r ∈ es.map readAnswer, r = none ∨ r = some read) {position : ℕ} {key : κ}
    {answer answer' : Except String (Option ν)} (hread : ⟨.read position key, answer⟩ ∈ es)
    (hread' : ⟨.read position key, answer'⟩ ∈ es) :
  answer = answer'
  := by
  rw [read_mem_iff] at hread hread'
  have heq := (h _ hread).resolve_left (Option.some_ne_none _)
  have heq' := (h _ hread').resolve_left (Option.some_ne_none _)
  cases heq.trans heq'.symm
  rfl

theorem orderly_find {position : ℕ} {key : κ} {es : List (LookupEvent κ ν)}
    {q : Program (Reply (κ := κ) (ν := ν)) (Except String (Option ν))}
    (h : (find position key).Runs es q) :
  Orderly [key] position es
  := by
  obtain ⟨answer, hread⟩ : ∃ answer, ∀ r ∈ es.map readAnswer,
      r = none ∨ r = some (position, key, answer) := by
    rcases runs_find h with ⟨rfl, -⟩ | ⟨now, value, rfl, -⟩ | ⟨now, rfl, -⟩
      | ⟨now, answer, rfl, -⟩ | ⟨now, value, t, rfl, -⟩
    · exact ⟨.ok none, by simp⟩
    · exact ⟨.ok none, by simp [readAnswer]⟩
    · exact ⟨.ok none, by simp [readAnswer]⟩
    · exact ⟨answer, by simp [readAnswer]⟩
    · exact ⟨.ok (some value), by simp [readAnswer]⟩
  constructor
  · rcases runs_find h with ⟨rfl, -⟩ | ⟨now, value, rfl, -⟩ | ⟨now, rfl, -⟩ | ⟨now, answer, rfl, -⟩
      | ⟨now, value, t, rfl, -⟩ <;> simp [Op.position, Op.key]
  · intro p k answer₁ answer₂
    apply read_eq_of_map_readAnswer hread
  · rcases runs_find h with ⟨rfl, -⟩ | ⟨now, value, rfl, -⟩ | ⟨now, rfl, -⟩ | ⟨now, answer, rfl, -⟩
      | ⟨now, value, t, rfl, -⟩ <;> simp [PutAfterRead]

/-- The operations of the first lookup of a call go before those of the others. -/
theorem Orderly.append {key : κ} {keys : List κ} {start : ℕ} {es es' : List (LookupEvent κ ν)}
    (h : Orderly [key] start es) (h' : Orderly keys (start + 1) es') :
  Orderly (key :: keys) start (es ++ es')
  := by
  have hfirst : ∀ e ∈ es, e.1.position = start ∧ e.1.key = key := by
    intro e he
    obtain ⟨hle, hkey⟩ := h.key_eq e he
    obtain ⟨hlt, hkey⟩ := List.getElem?_eq_some_iff.mp hkey
    rw [List.length_singleton] at hlt
    have hzero : e.1.position - start = 0 := by omega
    simp only [hzero, List.getElem_cons_zero] at hkey
    exact ⟨by omega, hkey.symm⟩
  have hrest : ∀ e ∈ es', e.1.position ≠ start :=
    fun e he => Nat.ne_of_gt (h'.key_eq e he).1
  constructor
  · intro e he
    rcases List.mem_append.mp he with he | he
    · obtain ⟨hposition, hkey⟩ := hfirst e he
      simp [hposition, hkey]
    · obtain ⟨hle, hkey⟩ := h'.key_eq e he
      have hsucc : e.1.position - start = (e.1.position - (start + 1)) + 1 := by omega
      rw [hsucc, List.getElem?_cons_succ]
      exact ⟨by omega, hkey⟩
  · intro position key' answer answer' hread hread'
    rcases List.mem_append.mp hread with hread | hread
    · rcases List.mem_append.mp hread' with hread' | hread'
      · exact h.read_eq position key' answer answer' hread hread'
      · exact (hrest _ hread' (hfirst _ hread).1).elim
    · rcases List.mem_append.mp hread' with hread' | hread'
      · exact (hrest _ hread (hfirst _ hread').1).elim
      · exact h'.read_eq position key' answer answer' hread hread'
  · refine Trace.eachAfter_append.mpr ⟨h.put_after_read, h'.put_after_read.mono ?_⟩
    rintro before ⟨op, reply⟩ hbefore
    cases op with
    | get => trivial
    | read => trivial
    | put => exact List.mem_append_right _ hbefore

/-- A call has not returned from its first lookup, or stopped with its exception, or went on with
the other lookups. -/
theorem runs_findAll_cons {position : ℕ} {answers : List (Option ν)} {key : κ} {keys : List κ}
    {es : List (LookupEvent κ ν)}
    {q : Program (Reply (κ := κ) (ν := ν)) (Except String (List (Option ν)))}
    (h : (findAll position answers (key :: keys)).Runs es q) :
  (∃ op next rest, (find position key).Runs es (.perform op next)
      ∧ q = .perform op fun reply => (next reply).bind rest)
    ∨ (∃ message, (find position key).Runs es (.done (.error message))
        ∧ q = .done (.error message))
    ∨ ∃ answer es₁ es₂, es = es₁ ++ es₂ ∧ (find position key).Runs es₁ (.done (.ok answer))
        ∧ (findAll (position + 1) (answers ++ [answer]) keys).Runs es₂ q
  := by
  rcases Program.Runs.of_bind h with ⟨op, next, hfind, hq⟩ | ⟨result, es₁, es₂, rfl, hfind, hrest⟩
  · exact Or.inl ⟨op, next, _, hfind, hq⟩
  · right
    cases result with
    | error message =>
        obtain ⟨rfl, rfl⟩ := Program.runs_done.mp hrest
        rw [List.append_nil]
        exact Or.inl ⟨message, hfind, rfl⟩
    | ok answer => exact Or.inr ⟨answer, es₁, es₂, rfl, hfind, hrest⟩

theorem Orderly.of_first {key : κ} {keys : List κ} {start : ℕ} {es : List (LookupEvent κ ν)}
    (h : Orderly [key] start es) :
  Orderly (key :: keys) start es
  := by
  rw [← List.append_nil es]
  exact h.append (orderly_nil keys (start + 1))

theorem orderly_findAll {keys : List κ} {position : ℕ} {answers : List (Option ν)}
    {es : List (LookupEvent κ ν)}
    {q : Program (Reply (κ := κ) (ν := ν)) (Except String (List (Option ν)))}
    (h : (findAll position answers keys).Runs es q) :
  Orderly keys position es
  := by
  induction keys generalizing position answers es with
  | nil =>
      obtain ⟨rfl, -⟩ := Program.runs_done.mp h
      apply orderly_nil
  | cons key keys ih =>
      rcases runs_findAll_cons h with ⟨_, _, _, hfind, -⟩ | ⟨_, hfind, -⟩
        | ⟨_, es₁, es₂, rfl, hfind, hrest⟩
      · exact (orderly_find hfind).of_first
      · exact (orderly_find hfind).of_first
      · exact (orderly_find hfind).append (ih hrest)

/-! ### What a call returns -/

/-- A lookup found an answer in the cache, or read it from the backing store. -/
def AnsweredBy (es : List (LookupEvent κ ν)) (position : ℕ) (key : κ) (answer : Option ν) : Prop :=
  (∃ now value, answer = some value ∧ ⟨.get position key, (now, some value)⟩ ∈ es)
    ∨ ⟨.read position key, .ok answer⟩ ∈ es

theorem AnsweredBy.mono {es es' : List (LookupEvent κ ν)} {position : ℕ} {key : κ}
    {answer : Option ν} (h : AnsweredBy es position key answer) (hsub : es ⊆ es') :
  AnsweredBy es' position key answer
  := by
  rcases h with ⟨now, value, rfl, hget⟩ | hread
  · exact Or.inl ⟨now, value, rfl, hsub hget⟩
  · exact Or.inr (hsub hread)

theorem answeredBy_of_runs_find {position : ℕ} {key : κ} {es : List (LookupEvent κ ν)}
    {answer : Option ν} (h : (find position key).Runs es (.done (.ok answer))) :
  AnsweredBy es position key answer
  := by
  rcases runs_find h with ⟨-, hq⟩ | ⟨now, value, rfl, hq⟩ | ⟨_, -, hq⟩ | ⟨now, answer', rfl, hq⟩
    | ⟨now, value, t, rfl, hq⟩
  · cases hq
  · cases hq
    exact Or.inl ⟨now, value, rfl, List.mem_singleton_self _⟩
  · cases hq
  · match answer', hq with
    | .ok none, hq =>
      cases hq
      exact Or.inr (by simp)
  · cases hq
    exact Or.inr (by simp)

/-- A call that returns gives one answer for each key, in the order of the keys. -/
theorem answers_of_runs_findAll {keys : List κ} {position : ℕ} {answers results : List (Option ν)}
    {es : List (LookupEvent κ ν)}
    (h : (findAll position answers keys).Runs es (.done (.ok results))) :
  ∃ found, results = answers ++ found ∧ found.length = keys.length
    ∧ ∀ p key answer, keys[p]? = some key → found[p]? = some answer →
        AnsweredBy es (position + p) key answer
  := by
  induction keys generalizing position answers es with
  | nil =>
      obtain ⟨-, hq⟩ := Program.runs_done.mp h
      cases hq
      exact ⟨[], by simp⟩
  | cons key keys ih =>
      rcases runs_findAll_cons h with ⟨_, _, _, -, hq⟩ | ⟨_, -, hq⟩
        | ⟨answer, es₁, es₂, rfl, hfind, hrest⟩
      · cases hq
      · cases hq
      · obtain ⟨found, rfl, hlength, hfound⟩ := ih hrest
        refine ⟨answer :: found, by simp, by simp [hlength], ?_⟩
        intro p key' answer' hkey hanswer
        cases p with
        | zero =>
            cases hkey
            cases hanswer
            exact (answeredBy_of_runs_find hfind).mono (List.subset_append_left _ _)
        | succ p =>
            have hmem := hfound p key' answer' hkey hanswer
            rw [Nat.add_assoc, Nat.add_comm 1] at hmem
            exact hmem.mono (List.subset_append_right _ _)

/-- The backing store threw. -/
def Threw (es : List (LookupEvent κ ν)) (message : String) : Prop :=
  ∃ position key, ⟨.read position key, .error message⟩ ∈ es

theorem threw_append {es es' : List (LookupEvent κ ν)} {message : String} :
  Threw (es ++ es') message ↔ Threw es message ∨ Threw es' message
  := by
  simp [Threw, exists_or]

theorem threw_iff {es : List (LookupEvent κ ν)} {message : String} :
  Threw es message
    ↔ ∃ position key, some (position, key, .error message) ∈ es.map readAnswer
  := by
  simp only [Threw, read_mem_iff]

theorem threw_find {position : ℕ} {key : κ} {es : List (LookupEvent κ ν)} {message : String}
    {q : Program (Reply (κ := κ) (ν := ν)) (Except String (Option ν))}
    (h : (find position key).Runs es q) :
  Threw es message ↔ q = .done (.error message)
  := by
  rcases runs_find h with ⟨rfl, rfl⟩ | ⟨now, value, rfl, rfl⟩ | ⟨_, rfl, rfl⟩
    | ⟨now, answer', rfl, rfl⟩ | ⟨now, value, t, rfl, rfl⟩
  · simp [threw_iff, find]
  · simp [threw_iff, readAnswer]
  · simp [threw_iff, readAnswer]
  · match answer' with
    | .ok none => simp [threw_iff, readAnswer, store]
    | .ok (some value) => simp [threw_iff, readAnswer, store]
    | .error message' => simp [threw_iff, readAnswer, store, eq_comm]
  · simp [threw_iff, readAnswer]

/-- A call throws what the backing store threw. -/
theorem threw_findAll {keys : List κ} {position : ℕ} {answers : List (Option ν)}
    {es : List (LookupEvent κ ν)} {message : String}
    {q : Program (Reply (κ := κ) (ν := ν)) (Except String (List (Option ν)))}
    (h : (findAll position answers keys).Runs es q) :
  Threw es message ↔ q = .done (.error message)
  := by
  induction keys generalizing position answers es with
  | nil =>
      obtain ⟨rfl, rfl⟩ := Program.runs_done.mp h
      simp [Threw]
  | cons key keys ih =>
      rcases runs_findAll_cons h with ⟨_, _, _, hfind, rfl⟩ | ⟨_, hfind, rfl⟩
        | ⟨answer, es₁, es₂, rfl, hfind, hrest⟩
      · simp [threw_find hfind]
      · simp [threw_find hfind]
      · simp [threw_append, threw_find hfind, ih hrest]

theorem length_find {position : ℕ} {key : κ} {es : List (LookupEvent κ ν)}
    {q : Program (Reply (κ := κ) (ν := ν)) (Except String (Option ν))}
    (h : (find position key).Runs es q) :
  es.length ≤ 3
  := by
  rcases runs_find h with ⟨rfl, -⟩ | ⟨_, _, rfl, -⟩ | ⟨_, rfl, -⟩ | ⟨_, _, rfl, -⟩
    | ⟨_, _, _, rfl, -⟩ <;> simp

/-- A call performs at most three operations for each key. -/
theorem length_findAll {keys : List κ} {position : ℕ} {answers : List (Option ν)}
    {es : List (LookupEvent κ ν)}
    {q : Program (Reply (κ := κ) (ν := ν)) (Except String (List (Option ν)))}
    (h : (findAll position answers keys).Runs es q) :
  es.length ≤ 3 * keys.length
  := by
  induction keys generalizing position answers es with
  | nil =>
      obtain ⟨rfl, -⟩ := Program.runs_done.mp h
      simp
  | cons key keys ih =>
      rw [List.length_cons]
      rcases runs_findAll_cons h with ⟨_, _, _, hfind, -⟩ | ⟨_, hfind, -⟩
        | ⟨answer, es₁, es₂, rfl, hfind, hrest⟩
      · have := length_find hfind
        omega
      · have := length_find hfind
        omega
      · have := length_find hfind
        have := ih hrest
        rw [List.length_append]
        omega

/-- A lookup that finds nothing in the cache goes on to the backing store. -/
theorem read_after_miss {keys : List κ} {position p : ℕ} {answers : List (Option ν)} {key : κ}
    {es : List (LookupEvent κ ν)} {next}
    (h : (findAll position answers keys).Runs es (.perform (.get p key) next)) (now : ℤ) :
  ∃ next', next (now, none) = .perform (.read p key) next'
  := by
  induction keys generalizing position answers es with
  | nil => cases (Program.runs_done.mp h).2
  | cons key' keys ih =>
      rcases runs_findAll_cons h with ⟨op, next', rest, hfind, hq⟩ | ⟨_, -, hq⟩
        | ⟨answer, es₁, es₂, rfl, hfind, hrest⟩
      · cases hq
        rcases runs_find hfind with ⟨-, hq⟩ | ⟨_, _, -, hq⟩ | ⟨_, -, hq⟩ | ⟨_, answer, -, hq⟩
          | ⟨_, _, _, -, hq⟩
        · cases hq
          exact ⟨_, rfl⟩
        · cases hq
        · cases hq
        · match answer, hq with
          | .ok (some _), hq => cases hq
        · cases hq
      · cases hq
      · exact ih hrest

/-! ### Interleavings -/

section Interleavings

variable {ι : Type} [DecidableEq ι] [DecidableEq κ]

/-- What an operation calls on the cache. -/
def cacheEvent : LookupEvent κ ν → Option (RecencyList.Event κ ν)
  | ⟨.get _ key, (now, _)⟩ => some ⟨now, .get key⟩
  | ⟨.read _ _, _⟩ => none
  | ⟨.put _ key value, now⟩ => some ⟨now, .put key value⟩

/-- The history of the cache, the latest call first. -/
def history (trace : List (ι × LookupEvent κ ν)) : List (RecencyList.Event κ ν) :=
  (trace.filterMap fun e => cacheEvent e.2).reverse

omit [DecidableEq ι] [DecidableEq κ] in
theorem history_concat (trace : List (ι × LookupEvent κ ν)) (i : ι) (e : LookupEvent κ ν) :
  history (trace ++ [(i, e)]) = (cacheEvent e).toList ++ history trace
  := by
  rw [history, List.filterMap_append, List.reverse_append, history, List.append_cancel_right_eq]
  cases h : cacheEvent e <;> simp [h]

omit [DecidableEq ι] in
/-- What was last put in the cache, a lookup put. -/
theorem exists_put_of_lastPut {key : κ} {t : ℤ} {value : ν} {trace : List (ι × LookupEvent κ ν)}
    (h : RecencyList.lastPut key (history trace) = some (t, value)) :
  ∃ before i position after, trace = before ++ (i, ⟨.put position key value, t⟩) :: after
  := by
  induction trace using List.reverseRecOn with
  | nil => simp [history, RecencyList.lastPut] at h
  | append_singleton trace e ih =>
      have hlater (hold : RecencyList.lastPut key (history trace) = some (t, value)) :
          ∃ before i position after,
            trace ++ [e] = before ++ (i, ⟨.put position key value, t⟩) :: after := by
        obtain ⟨before, i, position, after, rfl⟩ := ih hold
        exact ⟨before, i, position, after ++ [e], by simp⟩
      obtain ⟨j, op, reply⟩ := e
      rw [history_concat] at h
      cases op with
      | get position key' =>
          obtain ⟨now, found⟩ := reply
          exact hlater h
      | read position key' => exact hlater h
      | put position key' value' =>
          simp only [cacheEvent, Option.toList_some, List.singleton_append,
            RecencyList.lastPut] at h
          split at h
          · subst key'
            cases h
            exact ⟨trace, j, position, [], rfl⟩
          · exact hlater h

/-- A lookup read a value from the backing store and put it in the cache, less than `ttl` before a
clock reading. -/
def Filled (ttl : ℤ) (before : List (ι × LookupEvent κ ν)) (key : κ) (value : ν) (now : ℤ) :
    Prop :=
  ∃ earlier i position t later, before = earlier ++ (i, ⟨.put position key value, t⟩) :: later
    ∧ (i, ⟨.read position key, .ok (some value)⟩) ∈ earlier ∧ now - t < ttl

/-- What is found in the cache was filled. -/
def FoundFilled (ttl : ℤ) (before : List (ι × LookupEvent κ ν)) : ι × LookupEvent κ ν → Prop
  | (_, ⟨.get _ key, (now, some value)⟩) => Filled ttl before key value now
  | _ => True

variable {contents : Set (κ → Option ν)} {capacity : ℕ} {ttl : ℤ} {backing : κ → Option ν}
  {requests : ι → List κ} {trace : List (ι × LookupEvent κ ν)} {s : State κ ν}
  {current : ι → Program (Reply (κ := κ) (ν := ν)) (Except String (List (Option ν)))}

variable (contents capacity ttl backing requests) in
/-- What calls that look up some keys reach, from an empty cache. -/
abbrev CallsReach (trace : List (ι × LookupEvent κ ν)) (s : State κ ν)
    (current : ι → Program (Reply (κ := κ) (ν := ν)) (Except String (List (Option ν)))) : Prop :=
  Reaches Handles (Changes contents) ⟨LruCache.init capacity ttl, backing⟩
    (fun i => findAll 0 [] (requests i)) trace s current

theorem CallsReach.orderly (h : CallsReach contents capacity ttl backing requests trace s current)
    (i : ι) :
  Orderly (requests i) 0 (eventsOf i trace)
  := orderly_findAll (h.runs i)

/-- A value put was read before by the same lookup. -/
theorem CallsReach.read_of_put
    (h : CallsReach contents capacity ttl backing requests trace s current) {i : ι}
    {position : ℕ} {key : κ} {value : ν} {t : ℤ} {before after : List (ι × LookupEvent κ ν)}
    (htrace : trace = before ++ (i, ⟨.put position key value, t⟩) :: after) :
  (i, ⟨.read position key, .ok (some value)⟩) ∈ before
  := by
  have hput := Interleaving.of_eachAfter_eventsOf (h.orderly i).put_after_read htrace
  exact Interleaving.mem_eventsOf.mp hput

/-- The cache is what its history leaves. -/
theorem CallsReach.run_history
    (h : CallsReach contents capacity ttl backing requests trace s current) :
  LruCache.run capacity ttl (history trace) = some s.cache
  := by
  induction h with
  | start => rfl
  | change _ _ hchange ih => rw [hchange.1, ih]
  | @perform trace s current op next _ i reply s' _ hop ih =>
      rw [history_concat]
      match op, reply, hop with
      | .get _ key, (now, found), ⟨hget, _⟩ => simp [cacheEvent, LruCache.run, ih, hget]
      | .read _ _, _, ⟨hs, _⟩ =>
        rw [hs]
        exact ih
      | .put _ key value, now, ⟨hput, _⟩ => simp [cacheEvent, LruCache.run, ih, hput]

/-- Whatever is found in the cache was read from the backing store and put there by a lookup. -/
theorem CallsReach.foundFilled
    (h : CallsReach contents capacity ttl backing requests trace s current) :
  Trace.EachAfter (FoundFilled ttl) trace
  := by
  induction h with
  | start => apply Trace.eachAfter_nil
  | change _ _ _ ih => exact ih
  | @perform trace s current op next h i reply s' _ hop ih =>
      refine Trace.eachAfter_concat.mpr ⟨ih, ?_⟩
      match op, reply, hop with
      | .get _ key, (now, none), _ => trivial
      | .get _ key, (now, some value), ⟨hget, _⟩ =>
        obtain ⟨t, hlast, hnow⟩ := LruCache.lastPut_of_get (CallsReach.run_history h) hget
        obtain ⟨before, j, position, after, htrace⟩ := exists_put_of_lastPut hlast
        exact ⟨before, j, position, t, after, htrace, CallsReach.read_of_put h htrace, by omega⟩
      | .read _ _, _, _ => trivial
      | .put _ _ _, _, _ => trivial

/-- While the backing store keeps what it has under a key, every read of the key answers it. -/
theorem CallsReach.read_eq
    (h : CallsReach contents capacity ttl backing requests trace s current) {key : κ}
    (hkey : ∀ b ∈ contents, b key = backing key) :
  s.backing key = backing key
    ∧ ∀ i position answer, (i, ⟨.read position key, .ok answer⟩) ∈ trace → answer = backing key
  := by
  induction h with
  | start => simp
  | change _ _ hchange ih => exact ⟨hkey _ hchange.2, ih.2⟩
  | @perform trace s current op next _ i reply s' _ hop ih =>
      obtain ⟨hs, hreads⟩ := ih
      constructor
      · match op, reply, hop with
        | .get _ _, (_, _), ⟨_, hbacking⟩ => rw [hbacking, hs]
        | .read _ _, _, ⟨hstate, _⟩ => rw [hstate, hs]
        | .put _ _ _, _, ⟨_, hbacking⟩ => rw [hbacking, hs]
      · intro j position answer hmem
        rcases List.mem_append.mp hmem with hmem | hmem
        · exact hreads j position answer hmem
        · cases List.mem_singleton.mp hmem
          rcases hop.2 with hok | ⟨message, herror⟩
          · cases hok
            exact hs
          · cases herror

/-- An answer that a lookup read from the backing store, or found in the cache where a lookup had
put what it read. -/
def Sourced (ttl : ℤ) (trace : List (ι × LookupEvent κ ν)) (i : ι) (position : ℕ) (key : κ)
    (answer : Option ν) : Prop :=
  (i, ⟨.read position key, .ok answer⟩) ∈ trace
    ∨ ∃ before now value after,
        trace = before ++ (i, ⟨.get position key, (now, some value)⟩) :: after
          ∧ answer = some value ∧ Filled ttl before key value now

theorem CallsReach.sourced
    (h : CallsReach contents capacity ttl backing requests trace s current) {i : ι}
    {position : ℕ} {key : κ} {answer : Option ν}
    (hanswer : AnsweredBy (eventsOf i trace) position key answer) :
  Sourced ttl trace i position key answer
  := by
  rcases hanswer with ⟨now, value, rfl, hget⟩ | hread
  · obtain ⟨before, after, htrace⟩ := List.append_of_mem (Interleaving.mem_eventsOf.mp hget)
    exact Or.inr ⟨before, now, value, after, htrace, rfl, h.foundFilled before _ after htrace⟩
  · exact Or.inl (Interleaving.mem_eventsOf.mp hread)

/-- An answer is what the backing store has under the key, while it keeps that. -/
theorem CallsReach.sourced_eq
    (h : CallsReach contents capacity ttl backing requests trace s current) {i : ι}
    {position : ℕ} {key : κ} {answer : Option ν} (hkey : ∀ b ∈ contents, b key = backing key)
    (hanswer : Sourced ttl trace i position key answer) :
  answer = backing key
  := by
  have hreads := (h.read_eq hkey).2
  rcases hanswer with hread | ⟨_, _, value, _, rfl, rfl, earlier, j, p, t, later, rfl, hread, -⟩
  · exact hreads i position answer hread
  · apply hreads j p (some value)
    simp [hread]

variable (contents ttl backing requests trace s current) in
/-- Calls through a cache answer as the backing store does, and keep nothing else in the cache. -/
structure Transparent : Prop where
  /-- A call gives one answer for each key, in the order of the keys, which the backing store gave
  for the same key. -/
  answered : ∀ i answers, current i = .done (.ok answers) →
    answers.length = (requests i).length
      ∧ ∀ (position : ℕ) key answer, (requests i)[position]? = some key →
          answers[position]? = some answer → Sourced ttl trace i position key answer
  /-- While the backing store keeps what it has under a key, this is the answer. -/
  unchanged : ∀ i answers, current i = .done (.ok answers) →
    ∀ (position : ℕ) key, (requests i)[position]? = some key →
      (∀ b ∈ contents, b key = backing key) → answers[position]? = some (backing key)
  /-- A call throws when a read of the backing store throws. -/
  thrown : ∀ i message, current i = .done (.error message)
    ↔ ∃ position key, (i, ⟨.read position key, .error message⟩) ∈ trace
  /-- While the cache has no entry for a key, a lookup of it goes on to read the backing store. -/
  asks : ∀ i position key next, current i = .perform (.get position key) next →
    key ∉ s.cache.keys → ∀ now found s', Handles s (.get position key) (now, found) s' →
      ∃ next', next (now, found) = .perform (.read position key) next'
  /-- The cache has only values that the backing store gave for the same keys. -/
  cached : ∀ entry ∈ s.cache.view, ∃ i position,
    (i, ⟨.read position entry.key, .ok (some entry.value)⟩) ∈ trace
  /-- Only a put inserts in the cache, and it inserts its key. -/
  inserts : ∀ i op next reply s', current i = .perform op next → Handles s op reply s' →
    ∀ key ∈ s'.cache.keys, key ∈ s.cache.keys ∨ ∃ position value, op = .put position key value
  /-- A lookup puts nothing but the value it read. -/
  puts : ∀ i position key value t, (i, ⟨.put position key value, t⟩) ∈ trace →
    ∀ key' answer, (i, ⟨.read position key', answer⟩) ∈ trace →
      key' = key ∧ answer = .ok (some value)
  /-- A call that has not returned can always go on. -/
  goes_on : ∀ i op next, current i = .perform op next → ∃ reply s', Handles s op reply s'
  /-- A call performs at most three operations for each key. -/
  bounded : ∀ i, (eventsOf i trace).length ≤ 3 * (requests i).length

theorem CallsReach.answered
    (h : CallsReach contents capacity ttl backing requests trace s current) {i : ι}
    {answers : List (Option ν)} (hi : current i = .done (.ok answers)) :
  answers.length = (requests i).length
    ∧ ∀ (position : ℕ) key answer, (requests i)[position]? = some key →
        answers[position]? = some answer → Sourced ttl trace i position key answer
  := by
  have hruns := h.runs i
  rw [hi] at hruns
  obtain ⟨found, hfound, hlength, hanswered⟩ := answers_of_runs_findAll hruns
  obtain rfl : answers = found := hfound
  use hlength
  intro position key answer hkey hanswer
  have hsource := hanswered position key answer hkey hanswer
  rw [Nat.zero_add] at hsource
  exact h.sourced hsource

/-- A lookup puts what it reads, under the key it reads. -/
theorem CallsReach.puts
    (h : CallsReach contents capacity ttl backing requests trace s current) {i : ι}
    {position : ℕ} {key key' : κ} {value : ν} {t : ℤ} {answer : Except String (Option ν)}
    (hput : (i, ⟨.put position key value, t⟩) ∈ trace)
    (hread : (i, ⟨.read position key', answer⟩) ∈ trace) :
  key' = key ∧ answer = .ok (some value)
  := by
  obtain ⟨before, after, htrace⟩ := List.append_of_mem hput
  have hvalue : (i, ⟨.read position key, .ok (some value)⟩) ∈ trace := by
    rw [htrace]
    exact List.mem_append_left _ (h.read_of_put htrace)
  rw [← Interleaving.mem_eventsOf] at hread hvalue
  have hkey := ((h.orderly i).key_eq _ hread).2
  have hkey' := ((h.orderly i).key_eq _ hvalue).2
  obtain rfl : key' = key := Option.some.inj (hkey.symm.trans hkey')
  exact ⟨rfl, (h.orderly i).read_eq position key' answer _ hread hvalue⟩

theorem CallsReach.inserts
    (h : CallsReach contents capacity ttl backing requests trace s current) {op : Op κ ν}
    {reply : Reply op} {s' : State κ ν} (hop : Handles s op reply s') :
  ∀ key ∈ s'.cache.keys, key ∈ s.cache.keys ∨ ∃ position value, op = .put position key value
  := by
  intro key hkey
  match op, reply, hop with
  | .get _ _, (_, found), ⟨hget, _⟩ =>
    exact Or.inl ((LruCache.keys_subset h.run_history).1 found hget hkey)
  | .read _ _, _, ⟨hs, _⟩ =>
    rw [hs] at hkey
    exact Or.inl hkey
  | .put position key' value, _, ⟨hput, _⟩ =>
    rcases List.mem_cons.mp ((LruCache.keys_subset h.run_history).2 value hput hkey) with rfl | hkey
    · exact Or.inr ⟨position, value, rfl⟩
    · exact Or.inl hkey

theorem CallsReach.goes_on
    (h : CallsReach contents capacity ttl backing requests trace s current) (op : Op κ ν) :
  ∃ reply s', Handles s op reply s'
  := by
  match op with
  | .get position key =>
    obtain ⟨c', found, hget⟩ := LruCache.exists_get h.run_history 0 key
    exact ⟨(0, found), ⟨c', s.backing⟩, hget, rfl⟩
  | .read position key => exact ⟨.ok (s.backing key), s, rfl, Or.inl rfl⟩
  | .put position key value =>
    obtain ⟨c', hput⟩ := LruCache.exists_put h.run_history 0 key value
    exact ⟨(0 : ℤ), ⟨c', s.backing⟩, hput, rfl⟩

/-- Every interleaving of calls is transparent. -/
theorem transparent (h : CallsReach contents capacity ttl backing requests trace s current) :
  Transparent contents ttl backing requests trace s current
  := by
  constructor
  · intro i answers hi
    exact h.answered hi
  · intro i answers hi position key hkey hbacking
    obtain ⟨hlength, hanswered⟩ := h.answered hi
    have hlt : position < answers.length := by
      rw [hlength]
      exact (List.getElem?_eq_some_iff.mp hkey).1
    rw [List.getElem?_eq_getElem hlt]
    have hsource := hanswered position key answers[position] hkey (List.getElem?_eq_getElem hlt)
    rw [h.sourced_eq hbacking hsource]
  · intro i message
    rw [← threw_findAll (h.runs i)]
    simp only [Threw, Interleaving.mem_eventsOf]
  · intro i position key next hi hkey now found s' hget
    obtain rfl := LruCache.found_eq_none h.run_history hkey hget.1
    have hruns := h.runs i
    rw [hi] at hruns
    exact read_after_miss hruns now
  · intro entry hentry
    obtain ⟨t, hlast⟩ := LruCache.lastPut_of_mem_view h.run_history hentry
    obtain ⟨before, i, position, after, htrace⟩ := exists_put_of_lastPut hlast
    use i, position
    rw [htrace]
    exact List.mem_append_left _ (h.read_of_put htrace)
  · intro i op next reply s' _ hop
    exact h.inserts hop
  · intro i position key value t hput key' answer hread
    exact h.puts hput hread
  · intro i op next _
    exact h.goes_on op
  · intro i
    exact length_findAll (h.runs i)

end Interleavings

end CachedLookup
