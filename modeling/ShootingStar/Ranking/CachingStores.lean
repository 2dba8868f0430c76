import ShootingStar.Profile.ProfileService
import ShootingStar.Ranking.HeuristicRanker
import ShootingStar.Utilities.CachedLookup

/-!
# The caching stores

`CachingProfileStore` and `CachingItemIndexStore` put a cache in front of another store.  The
other store is modelled by what it has under each key, which may change at any time, and a read
of it may throw.  A batch of items is looked up one item at a time.

Both stores are transparent in every interleaving of calls (`cachingStores_transparent`).
-/

open CachedLookup (Handles Changes Transparent)
open Interleaving (Reaches)

namespace RecommendationEngine

/-- A call that returns `ρ`, or the message of the exception it throws. -/
abbrev StoreCall (κ ν ρ : Type) :=
  Program (CachedLookup.Reply (κ := κ) (ν := ν)) (Except String ρ)

/-! ### Profiles -/

namespace CachingProfileStore

/-- The constructor, with the message of the exception it throws; a null store is `none`. -/
def create (profileStore : Option (ℤ → Option Profile)) (capacity : ℕ) (ttl : ℤ) :
    Except String (CachedLookup.State ℤ Profile) :=
  CachedLookup.create "CachingProfileStore profile_store must not be null" profileStore capacity ttl

/-- `FindByUserId`. -/
def findByUserId (userId : ℤ) : StoreCall ℤ Profile (Option Profile) :=
  CachedLookup.find 0 userId

end CachingProfileStore

/-! ### Items -/

namespace CachingItemIndexStore

/-- The constructor, with the message of the exception it throws; a null store is `none`. -/
def create (itemIndexStore : Option (ℕ → Option ItemIndexEntry)) (capacity : ℕ) (ttl : ℤ) :
    Except String (CachedLookup.State ℕ ItemIndexEntry) :=
  CachedLookup.create "CachingItemIndexStore item_index_store must not be null" itemIndexStore
    capacity ttl

/-- `FindByItemId`. -/
def findByItemId (itemId : ℕ) : StoreCall ℕ ItemIndexEntry (Option ItemIndexEntry) :=
  CachedLookup.find 0 itemId

/-- `FindByItemIds`, which looks up one item after the other. -/
def findByItemIds (itemIds : List ℕ) : StoreCall ℕ ItemIndexEntry (List (Option ItemIndexEntry)) :=
  CachedLookup.findAll 0 [] itemIds

end CachingItemIndexStore

/-- A call of the item store. -/
inductive ItemRequest where
  | findByItemId (itemId : ℕ)
  | findByItemIds (itemIds : List ℕ)

namespace ItemRequest

/-- The items looked up. -/
def itemIds : ItemRequest → List ℕ
  | findByItemId itemId => [itemId]
  | findByItemIds itemIds => itemIds

/-- The call, with its answer as a list. -/
def call : ItemRequest → StoreCall ℕ ItemIndexEntry (List (Option ItemIndexEntry))
  | findByItemId itemId => CachedLookup.asBatch (CachingItemIndexStore.findByItemId itemId)
  | findByItemIds itemIds => CachingItemIndexStore.findByItemIds itemIds

theorem call_eq (request : ItemRequest) :
  request.call = CachedLookup.findAll 0 [] request.itemIds
  := by
  cases request with
  | findByItemId itemId => apply CachedLookup.asBatch_find
  | findByItemIds itemIds => rfl

end ItemRequest

/-! ### Transparency -/

section Transparency

variable {ι : Type} [DecidableEq ι]

/-- In every interleaving of calls both stores answer as the store behind the cache does. -/
theorem cachingStores_transparent (capacity : ℕ) (ttl : ℤ) :
  (∀ (contents : Set (ℤ → Option Profile)) (profileStore : ℤ → Option Profile)
      (start : CachedLookup.State ℤ Profile) (userIds : ι → ℤ) trace s current,
    CachingProfileStore.create (some profileStore) capacity ttl = .ok start →
    Reaches Handles (Changes contents) start
        (fun i => CachedLookup.asBatch (CachingProfileStore.findByUserId (userIds i)))
        trace s current →
      Transparent contents ttl profileStore (fun i => [userIds i]) trace s current)
    ∧ ∀ (contents : Set (ℕ → Option ItemIndexEntry)) (itemIndexStore : ℕ → Option ItemIndexEntry)
        (start : CachedLookup.State ℕ ItemIndexEntry) (requests : ι → ItemRequest) trace s current,
      CachingItemIndexStore.create (some itemIndexStore) capacity ttl = .ok start →
      Reaches Handles (Changes contents) start (fun i => (requests i).call) trace s current →
        Transparent contents ttl itemIndexStore (fun i => (requests i).itemIds) trace s current
  := by
  constructor
  · intro contents profileStore start userIds trace s current hstart hreach
    cases hstart
    simp only [CachingProfileStore.findByUserId, CachedLookup.asBatch_find] at hreach
    exact CachedLookup.transparent hreach
  · intro contents itemIndexStore start requests trace s current hstart hreach
    cases hstart
    simp only [ItemRequest.call_eq] at hreach
    exact CachedLookup.transparent hreach

end Transparency

/-- Two users of the profile store both fill its cache, and a batch of items is answered from the
cache and from the store behind it. -/
theorem cachingStores_transparent_filled :
  (∃ trace s current, Transparent ∅ 10 (fun _ => some ({ userId := 1 } : Profile))
        (fun _ : Bool => [(1 : ℤ)]) trace s current
      ∧ current false = .done (.ok [some { userId := 1 }])
      ∧ current true = .done (.ok [some { userId := 1 }]))
    ∧ ∃ trace s current, Transparent {fun _ => none} 10
        (fun _ => some ({ itemId := 1 } : ItemIndexEntry)) (fun _ : Bool => [1, 1, 2])
        trace s current
      ∧ current false = .done (.ok [some { itemId := 1 }, some { itemId := 1 }, none])
  := by
  obtain ⟨hprofiles, hitems⟩ := cachingStores_transparent (ι := Bool) 2 10
  constructor
  · obtain ⟨c₁, hput₁⟩ := @LruCache.exists_put ℤ Profile _ 2 10 [] _ rfl 1 1 { userId := 1 }
    obtain ⟨c₂, hput₂⟩ := @LruCache.exists_put ℤ Profile _ 2 10 [⟨1, .put 1 { userId := 1 }⟩] c₁
      hput₁ 2 1 { userId := 1 }
    have hget : Handles ⟨LruCache.init 2 10, fun _ => some ({ userId := 1 } : Profile)⟩
        (.get 0 (1 : ℤ)) (0, none) ⟨LruCache.init 2 10, fun _ => some { userId := 1 }⟩ := ⟨rfl, rfl⟩
    have hread : Handles ⟨LruCache.init 2 10, fun _ => some ({ userId := 1 } : Profile)⟩
        (.read 0 (1 : ℤ)) (.ok (some { userId := 1 })) _ := ⟨rfl, Or.inl rfl⟩
    have hfill₁ : Handles ⟨LruCache.init 2 10, fun _ => some ({ userId := 1 } : Profile)⟩
        (.put 0 (1 : ℤ) { userId := 1 }) (1 : ℤ) ⟨c₁, fun _ => some { userId := 1 }⟩ := ⟨hput₁, rfl⟩
    have hfill₂ : Handles ⟨c₁, fun _ => some ({ userId := 1 } : Profile)⟩
        (.put 0 (1 : ℤ) { userId := 1 }) (2 : ℤ) ⟨c₂, fun _ => some { userId := 1 }⟩ := ⟨hput₂, rfl⟩
    have h : Reaches Handles (Changes ∅) ⟨LruCache.init 2 10, fun _ => some { userId := 1 }⟩
        (fun _ : Bool => CachedLookup.asBatch (CachingProfileStore.findByUserId 1)) _ _ _ :=
      (((((Reaches.start.perform false _ _ rfl hget).perform true _ _ rfl hget).perform false _ _
        rfl hread).perform true _ _ rfl hread).perform false _ _ rfl hfill₁).perform true _ _ rfl
          hfill₂
    exact ⟨_, _, _, hprofiles ∅ _ _ (fun _ => 1) _ _ _ rfl h, rfl, rfl⟩
  · obtain ⟨c₁, c₂, hput, hhit, hmiss⟩ : ∃ c₁ c₂ : LruCache ℕ ItemIndexEntry,
        (LruCache.init 2 10).put 1 1 { itemId := 1 } = some c₁
          ∧ c₁.get 2 1 = some (c₂, some { itemId := 1 }) ∧ c₂.get 3 2 = some (c₂, none) := by
      refine ⟨LruCache.pushFront ⟨1, { itemId := 1 }, 11⟩ (LruCache.init 2 10), _, ?_, rfl, rfl⟩
      simp [LruCache.put, LruCache.pushFront, LruCache.init, LruCache.evict, LruCache.expiresAt,
        LruCache.maxTime]
    have hget : Handles ⟨LruCache.init 2 10, fun _ => some ({ itemId := 1 } : ItemIndexEntry)⟩
        (.get 0 1) (0, none) ⟨LruCache.init 2 10, fun _ => some { itemId := 1 }⟩ := ⟨rfl, rfl⟩
    have hread : Handles ⟨LruCache.init 2 10, fun _ => some ({ itemId := 1 } : ItemIndexEntry)⟩
        (.read 0 1) (.ok (some { itemId := 1 })) _ := ⟨rfl, Or.inl rfl⟩
    have hfill : Handles ⟨LruCache.init 2 10, fun _ => some ({ itemId := 1 } : ItemIndexEntry)⟩
        (.put 0 1 { itemId := 1 }) (1 : ℤ) ⟨c₁, fun _ => some { itemId := 1 }⟩ := ⟨hput, rfl⟩
    have hagain : Handles ⟨c₁, fun _ => some ({ itemId := 1 } : ItemIndexEntry)⟩ (.get 1 1)
        (2, some { itemId := 1 }) ⟨c₂, fun _ => some { itemId := 1 }⟩ := ⟨hhit, rfl⟩
    have hother : Handles ⟨c₂, fun _ => some ({ itemId := 1 } : ItemIndexEntry)⟩ (.get 2 2)
        (3, none) ⟨c₂, fun _ => some { itemId := 1 }⟩ := ⟨hmiss, rfl⟩
    have hgone : Handles ⟨c₂, fun _ => (none : Option ItemIndexEntry)⟩ (.read 2 2) (.ok none) _ :=
      ⟨rfl, Or.inl rfl⟩
    have h : Reaches Handles (Changes {fun _ => none})
        ⟨LruCache.init 2 10, fun _ => some { itemId := 1 }⟩
        (fun _ : Bool => (ItemRequest.findByItemIds [1, 1, 2]).call) _ _ _ :=
      ((((((Reaches.start.perform false _ _ rfl hget).perform false _ _ rfl hread).perform false _ _
        rfl hfill).perform false _ _ rfl hagain).perform false _ _ rfl hother).change
        ⟨c₂, fun _ => none⟩ ⟨rfl, rfl⟩).perform false _ _ rfl hgone
    exact ⟨_, _, _, hitems {fun _ => none} _ _ (fun _ => .findByItemIds [1, 1, 2]) _ _ _ rfl h, rfl⟩

end RecommendationEngine
