import Netdiag.Watch.Event

namespace Netdiag.Watch

/-!
# Watch — when an interface gains or loses a family

The `family_gained` / `family_lost` flags of address events against what they are for: *this
add or remove changed whether the interface has any global address of that family*.

* `Table` — the abstract state, after the notifications alone: the addresses of every
  interface and which of them are global.
* `Exact` / `AllExact` — the flags of an event, of all events along a list of
  notifications, say what happened to the table.
* `Sound` / `AllSound` — a condition on the table and the notification.
* `family_flags_exact_iff` — the flags of all events along a list are exact if and only if
  every notification in it is sound.

The cache decides a removal by what is left of the family on the interface, *whatever its
scope*; so the flags go wrong as soon as the last global address goes and a link-local one
stays.
-/

/-! ### The abstract table -/

/-- The addresses of every interface, and those of them with global scope. -/
structure Table where
  held : Nat → Finset Address
  global : Nat → Finset Address
  global_held : ∀ index, global index ⊆ held index

namespace Table

/-- No notification has been seen. -/
def empty : Table := ⟨fun _ => ∅, fun _ => ∅, fun _ => Finset.Subset.refl _⟩

/-- The family has a global address on the interface. -/
def HasGlobal (t : Table) (index : Nat) (family : IpFamily) : Prop :=
  ∃ a ∈ t.global index, a.1.family = family

instance (t : Table) (index : Nat) (family : IpFamily) : Decidable (t.HasGlobal index family) :=
  inferInstanceAs (Decidable (∃ a ∈ _, _))

/-- An address appears, or is refreshed with this scope. -/
def add (t : Table) (index : Nat) (a : Address) (isGlobal : Bool) : Table where
  held := Function.update t.held index (insert a (t.held index))
  global := Function.update t.global index
    (if isGlobal then insert a (t.global index) else (t.global index).erase a)
  global_held := by
    intro j
    by_cases hj : j = index
    · subst hj
      simp only [Function.update_self]
      split
      · exact Finset.insert_subset_insert a (t.global_held j)
      · exact (Finset.erase_subset a _).trans ((t.global_held j).trans (Finset.subset_insert a _))
    · simp only [Function.update_of_ne hj]
      exact t.global_held j

/-- An address goes. -/
def remove (t : Table) (index : Nat) (a : Address) : Table where
  held := Function.update t.held index ((t.held index).erase a)
  global := Function.update t.global index ((t.global index).erase a)
  global_held := by
    intro j
    by_cases hj : j = index
    · subst hj
      simp only [Function.update_self]
      exact Finset.erase_subset_erase a (t.global_held j)
    · simp only [Function.update_of_ne hj]
      exact t.global_held j

/-- An interface goes, and its addresses with it. -/
def clear (t : Table) (index : Nat) : Table where
  held := Function.update t.held index ∅
  global := Function.update t.global index ∅
  global_held := by
    intro j
    by_cases hj : j = index
    · subst hj
      simp
    · simp only [Function.update_of_ne hj]
      exact t.global_held j

/-- The table after a notification. -/
def apply (t : Table) : Message → Table
  -- A link that comes up has no address yet.
  | .newLink _ => t
  | .delLink msg => t.clear msg.index
  | .newAddress msg =>
      match addressAttributes msg.attributes with
      | some ip => t.add msg.index (ip, msg.prefixLen) (decide (msg.scope = .universe))
      | none => t
  | .delAddress msg =>
      match addressAttributes msg.attributes with
      | some ip => t.remove msg.index (ip, msg.prefixLen)
      | none => t

/-! ### What a notification does to the global addresses -/

variable {t t' : Table} {index j : Nat} {a : Address} {family : IpFamily}

/-- Some global address of the family other than `a` is on the interface. -/
def OtherGlobal (t : Table) (index : Nat) (a : Address) : Prop :=
  ∃ b ∈ (t.global index).erase a, b.1.family = a.1.family

/-- Some address of the family other than `a`, of whatever scope, is on the interface. -/
def OtherHeld (t : Table) (index : Nat) (a : Address) : Prop :=
  ∃ b ∈ (t.held index).erase a, b.1.family = a.1.family

instance (t : Table) (index : Nat) (a : Address) : Decidable (t.OtherGlobal index a) :=
  inferInstanceAs (Decidable (∃ b ∈ _, _))

instance (t : Table) (index : Nat) (a : Address) : Decidable (t.OtherHeld index a) :=
  inferInstanceAs (Decidable (∃ b ∈ _, _))

/-- Another global address of the family is a global address of the family. -/
theorem OtherGlobal.hasGlobal (h : t.OtherGlobal index a) : t.HasGlobal index a.1.family := by
  obtain ⟨b, hb, hfamily⟩ := h
  exact ⟨b, Finset.mem_of_mem_erase hb, hfamily⟩

/-- Another global address is another address that is held. -/
theorem OtherGlobal.otherHeld (h : t.OtherGlobal index a) : t.OtherHeld index a := by
  obtain ⟨b, hb, hfamily⟩ := h
  exact ⟨b, Finset.erase_subset_erase a (t.global_held index) hb, hfamily⟩

/-- The families a notification about `a` on `index` does not concern. -/
theorem hasGlobal_of_other (hglobal : ∀ i b, (i ≠ index ∨ b ≠ a) →
    (b ∈ t'.global i ↔ b ∈ t.global i)) (hother : j ≠ index ∨ a.1.family ≠ family) :
    t'.HasGlobal j family ↔ t.HasGlobal j family := by
  have hmem : ∀ b : Address, b.1.family = family → (b ∈ t'.global j ↔ b ∈ t.global j) := by
    intro b hb
    refine hglobal j b (hother.imp_right fun hne => ?_)
    rintro rfl
    exact hne hb
  constructor
  · rintro ⟨b, hb, hfamily⟩
    exact ⟨b, (hmem b hfamily).mp hb, hfamily⟩
  · rintro ⟨b, hb, hfamily⟩
    exact ⟨b, (hmem b hfamily).mpr hb, hfamily⟩

/-- The family of `a` after its global address went. -/
theorem hasGlobal_of_erase (hglobal : t'.global index = (t.global index).erase a) :
    t'.HasGlobal index a.1.family ↔ t.OtherGlobal index a := by
  unfold HasGlobal OtherGlobal
  rw [hglobal]

/-- Adding an address changes nothing for the others. -/
theorem mem_add_global (t : Table) (isGlobal : Bool) (i : Nat) (b : Address)
    (h : i ≠ index ∨ b ≠ a) : b ∈ (t.add index a isGlobal).global i ↔ b ∈ t.global i := by
  by_cases hi : i = index
  · subst hi
    have hb : b ≠ a := h.resolve_left fun hne => hne rfl
    simp only [add, Function.update_self]
    split <;> simp [hb]
  · simp [add, Function.update_of_ne hi]

/-- Removing an address changes nothing for the others. -/
theorem mem_remove_global (t : Table) (i : Nat) (b : Address) (h : i ≠ index ∨ b ≠ a) :
    b ∈ (t.remove index a).global i ↔ b ∈ t.global i := by
  by_cases hi : i = index
  · subst hi
    have hb : b ≠ a := h.resolve_left fun hne => hne rfl
    simp [remove, hb]
  · simp [remove, Function.update_of_ne hi]

/-! ### The condition on a notification -/

/-- A notification about `a`, with this scope.  One without global scope does not take the
    family's only global address away; a removal of a global address leaves another global
    one if it leaves any of the family. -/
def SoundFor (t : Table) (index : Nat) (a : Address) (isGlobal added : Bool) : Prop :=
  (isGlobal = false → t.HasGlobal index a.1.family → t.OtherGlobal index a) ∧
  (isGlobal = true → added = false → t.OtherHeld index a → t.OtherGlobal index a)

instance (t : Table) (index : Nat) (a : Address) (isGlobal added : Bool) :
    Decidable (t.SoundFor index a isGlobal added) :=
  inferInstanceAs (Decidable (_ ∧ _))

/-- The notification is sound in this table. -/
def Sound (t : Table) : Message → Prop
  | .newLink _ => True
  | .delLink _ => True
  | .newAddress msg => ∀ ip ∈ addressAttributes msg.attributes,
      t.SoundFor msg.index (ip, msg.prefixLen) (decide (msg.scope = .universe)) true
  | .delAddress msg => ∀ ip ∈ addressAttributes msg.attributes,
      t.SoundFor msg.index (ip, msg.prefixLen) (decide (msg.scope = .universe)) false

instance (t : Table) (m : Message) : Decidable (t.Sound m) :=
  match m with
  | .newLink _ => .isTrue trivial
  | .delLink _ => .isTrue trivial
  | .newAddress _ => inferInstanceAs (Decidable (∀ ip ∈ _, _))
  | .delAddress _ => inferInstanceAs (Decidable (∀ ip ∈ _, _))

/-- Every notification of the list is sound in the table before it. -/
def AllSound (t : Table) : List Message → Prop
  | [] => True
  | m :: ms => t.Sound m ∧ (t.apply m).AllSound ms

instance decidableAllSound (t : Table) (ms : List Message) : Decidable (t.AllSound ms) :=
  match ms with
  | [] => .isTrue trivial
  | m :: ms =>
    have := decidableAllSound (t.apply m) ms
    inferInstanceAs (Decidable (_ ∧ _))

end Table

/-! ### Exact events -/

/-- The flags of the event the notification makes, if it is about an address, say whether
    the family gained its first or lost its last global address on the interface. -/
def Exact (c : StateCache) (t : Table) (m : Message) : Prop :=
  ∀ event ∈ (translate m c).1, ∀ e, event.payload = .address e →
    (e.familyLost = true ↔ t.HasGlobal e.interfaceIndex e.family ∧
      ¬ (t.apply m).HasGlobal e.interfaceIndex e.family) ∧
    (e.familyGained = true ↔ ¬ t.HasGlobal e.interfaceIndex e.family ∧
      (t.apply m).HasGlobal e.interfaceIndex e.family)

/-- The events along the list are exact. -/
def AllExact (c : StateCache) (t : Table) : List Message → Prop
  | [] => True
  | m :: ms => Exact c t m ∧ AllExact (translate m c).2 (t.apply m) ms

/-! ### The cache follows the table -/

namespace StateCache

/-- The sets of interfaces are apart from the addresses. -/
@[simp] theorem addresses_setGlobal (c : StateCache) (family : IpFamily) (set : Finset Nat) :
    (c.setGlobal family set).addresses = c.addresses := by
  cases family <;> rfl

/-- Each family has its own set of interfaces. -/
theorem hasGlobal_setGlobal (c : StateCache) (ip ip' : IpAddr) (set : Finset Nat) :
    (c.setGlobal ip.family set).hasGlobal ip'.family
      = if ip'.family = ip.family then set else c.hasGlobal ip'.family := by
  cases ip <;> cases ip' <;> rfl

/-- The addresses are apart from the sets of interfaces. -/
@[simp] theorem hasGlobal_withAddresses (c : StateCache) (addresses : Nat → Finset Address)
    (family : IpFamily) :
    ({ c with addresses } : StateCache).hasGlobal family = c.hasGlobal family := rfl

end StateCache

/-- The cache holds the addresses of the table and knows which families are global. -/
structure Sync (c : StateCache) (t : Table) : Prop where
  addresses : c.addresses = t.held
  flags : ∀ (ip : IpAddr) index, index ∈ c.hasGlobal ip.family ↔ t.HasGlobal index ip.family

/-- An empty cache and an empty table are in step. -/
theorem Sync.default : Sync .default .empty where
  addresses := rfl
  flags := by
    intro ip index
    refine iff_of_false ?_ ?_
    · cases ip <;> exact Finset.notMem_empty index
    · rintro ⟨a, ha, -⟩
      exact Finset.notMem_empty a ha

/-- Whether the parsed text is of the family is whether the address is. -/
theorem isIpv6_eq_iff (ip ip' : IpAddr) :
    ip'.isIpv6 = (ip.family == .v6) ↔ ip'.family = ip.family := by
  cases ip <;> cases ip' <;> simp [IpAddr.isIpv6]

/-- Some address of the family is left. -/
theorem anyLeft_eq_true (addresses : Finset Address) (ip : IpAddr) :
    anyLeft addresses ip.family = true ↔ ∃ a ∈ addresses, a.1.family = ip.family := by
  simp only [anyLeft, decide_eq_true_eq, isIpv6_eq_iff]

section Track

variable {c : StateCache} {t : Table} {index prefixLen : Nat} {ip : IpAddr}
  {isGlobal added : Bool}

/-- The table after a notification about one address. -/
def Table.track (t : Table) (index : Nat) (a : Address) (isGlobal added : Bool) : Table :=
  if added then t.add index a isGlobal else t.remove index a

/-- Tracking an address changes nothing for the others. -/
theorem Table.mem_track_global (i : Nat) (b : Address)
    (h : i ≠ index ∨ b ≠ (ip, prefixLen)) :
    b ∈ (t.track index (ip, prefixLen) isGlobal added).global i ↔ b ∈ t.global i := by
  unfold Table.track
  split
  · exact t.mem_add_global isGlobal i b h
  · exact t.mem_remove_global i b h

/-- The family after a notification that takes its global scope away. -/
theorem Table.hasGlobal_track (h : isGlobal = false ∨ added = false) :
    (t.track index (ip, prefixLen) isGlobal added).HasGlobal index ip.family
      ↔ t.OtherGlobal index (ip, prefixLen) := by
  refine Table.hasGlobal_of_erase (a := (ip, prefixLen)) ?_
  cases added with
  | true =>
    rw [h.resolve_right (by simp)]
    simp [Table.track, Table.add]
  | false => simp [Table.track, Table.remove]

/-- What the cache remembers is whether the interface had a global address. -/
theorem trackAddress_had (hs : Sync c t) (index : Nat) (ip : IpAddr) (prefixLen : Nat)
    (isGlobal added : Bool) :
    (trackAddress index ip prefixLen isGlobal added c).1.had = true
      ↔ t.HasGlobal index ip.family := by
  rw [← hs.flags]
  unfold trackAddress
  simp only [StateCache.hasGlobal_withAddresses]
  split
  · exact decide_eq_true_iff
  · split <;> exact decide_eq_true_iff

/-- **One address.**  What the code takes the family to be after the notification is what
    it is exactly when the notification is sound. -/
theorem trackAddress_hasNow (hs : Sync c t) :
    ((trackAddress index ip prefixLen isGlobal added c).1.hasNow = true
      ↔ (t.track index (ip, prefixLen) isGlobal added).HasGlobal index ip.family)
    ↔ t.SoundFor index (ip, prefixLen) isGlobal added := by
  have hup : t.OtherGlobal index (ip, prefixLen) → t.HasGlobal index ip.family :=
    Table.OtherGlobal.hasGlobal
  cases isGlobal with
  | false =>
    -- the flag is left alone
    have hnow : (trackAddress index ip prefixLen false added c).1.hasNow = true
        ↔ t.HasGlobal index ip.family :=
      trackAddress_had hs index ip prefixLen false added
    rw [hnow, Table.hasGlobal_track (.inl rfl)]
    unfold Table.SoundFor
    constructor
    · exact fun h => ⟨fun _ hg => h.mp hg, by simp⟩
    · exact fun h => ⟨h.1 rfl, hup⟩
  | true =>
    cases added with
    | true =>
      refine iff_of_true (iff_of_true rfl ⟨(ip, prefixLen), ?_, rfl⟩) ?_
      · simp [Table.track, Table.add]
      · simp [Table.SoundFor]
    | false =>
      -- decided by what is left of the family
      have hnow : (trackAddress index ip prefixLen true false c).1.hasNow = true
          ↔ t.OtherHeld index (ip, prefixLen) := by
        simp only [trackAddress, Bool.true_eq_false, if_false, Bool.false_eq_true,
          Function.update_self, anyLeft_eq_true, hs.addresses]
        rfl
      rw [hnow, Table.hasGlobal_track (.inr rfl)]
      unfold Table.SoundFor
      constructor
      · exact fun h => ⟨by simp, fun _ _ hh => h.mp hh⟩
      · exact fun h => ⟨h.2 rfl rfl, Table.OtherGlobal.otherHeld⟩

/-- The flags of other interfaces, and of the other family, do not move. -/
theorem mem_trackAddress_of_other {ip' : IpAddr} {j : Nat}
    (hother : j ≠ index ∨ ip.family ≠ ip'.family) :
    j ∈ (trackAddress index ip prefixLen isGlobal added c).2.hasGlobal ip'.family
      ↔ j ∈ c.hasGlobal ip'.family := by
  -- Replacing the set of one family at one index leaves the others.
  have hset : ∀ (c' : StateCache) set,
      (∀ x : IpAddr, c'.hasGlobal x.family = c.hasGlobal x.family) →
      (j ≠ index → (j ∈ set ↔ j ∈ c.hasGlobal ip.family)) →
      (j ∈ (c'.setGlobal ip.family set).hasGlobal ip'.family ↔ j ∈ c.hasGlobal ip'.family) := by
    intro c' set hc' hset
    rw [StateCache.hasGlobal_setGlobal]
    split
    · rename_i h
      rw [h]
      exact hset (hother.resolve_right fun hne => hne h.symm)
    · rw [hc']
  cases isGlobal with
  | false => rfl
  | true =>
    cases added with
    | true => exact hset _ _ (fun _ => rfl) fun hj => by simp [hj]
    | false =>
      simp only [trackAddress, Bool.true_eq_false, if_false, Bool.false_eq_true]
      split
      · rfl
      · exact hset _ _ (fun _ => rfl) fun hj => by simp [hj]

/-- The flag the notification is about. -/
theorem mem_trackAddress :
    index ∈ (trackAddress index ip prefixLen isGlobal added c).2.hasGlobal ip.family
      ↔ (trackAddress index ip prefixLen isGlobal added c).1.hasNow = true ∧
        (isGlobal = true → added = false → index ∈ c.hasGlobal ip.family) := by
  cases isGlobal with
  | false =>
    refine Iff.trans ?_ (and_iff_left (by simp)).symm
    exact decide_eq_true_iff.symm
  | true =>
    cases added with
    | true => simp [trackAddress, StateCache.hasGlobal_setGlobal]
    | false =>
      simp only [trackAddress, Bool.true_eq_false, if_false, Bool.false_eq_true]
      split
      · rename_i h; rw [h]; simp
      · rename_i h; rw [Bool.not_eq_true] at h; rw [h]; simp [StateCache.hasGlobal_setGlobal]

/-- The cache follows the table through a sound notification. -/
theorem Sync.track (hs : Sync c t)
    (hsound : t.SoundFor index (ip, prefixLen) isGlobal added) :
    Sync (trackAddress index ip prefixLen isGlobal added c).2
      (t.track index (ip, prefixLen) isGlobal added) := by
  have hheld : (trackAddress index ip prefixLen isGlobal added c).2.addresses
      = (t.track index (ip, prefixLen) isGlobal added).held := by
    have haddresses := hs.addresses
    unfold trackAddress Table.track
    cases isGlobal <;> cases added <;> simp [Table.add, Table.remove, haddresses]
    split <;> simp
  refine ⟨hheld, fun ip' j => ?_⟩
  by_cases hother : j ≠ index ∨ ip.family ≠ ip'.family
  · -- another interface or the other family: nothing moves
    rw [Table.hasGlobal_of_other Table.mem_track_global hother, ← hs.flags]
    exact mem_trackAddress_of_other hother
  · obtain ⟨rfl, hfamily⟩ : j = index ∧ ip.family = ip'.family := by
      simpa [not_or] using hother
    rw [← hfamily, mem_trackAddress, (trackAddress_hasNow hs).mpr hsound]
    refine and_iff_left_of_imp fun hafter hglobal hdel => ?_
    -- the flag is never set by a removal, so it must have been set before it
    subst hglobal hdel
    rw [Table.hasGlobal_track (.inr rfl)] at hafter
    exact (hs.flags ip j).mpr hafter.hasGlobal

end Track

/-! ### Whole lists of notifications -/

section Messages

variable {c : StateCache} {t : Table} {msg : AddressMessage} {ip : IpAddr} {added : Bool}

/-- The scope `address_event` takes for global. -/
def AddressMessage.isGlobal (msg : AddressMessage) : Bool := decide (msg.scope = .universe)

/-- The one event of an address notification, with the flags read off the cache. -/
theorem addressEvent_eq (c : StateCache) (added : Bool)
    (hip : addressAttributes msg.attributes = some ip) :
    ∃ event e, addressEvent msg added c =
        (some event, (trackAddress msg.index ip msg.prefixLen msg.isGlobal added c).2) ∧
      event.payload = .address e ∧ e.interfaceIndex = msg.index ∧ e.family = ip.family ∧
      e.familyLost =
        ((trackAddress msg.index ip msg.prefixLen msg.isGlobal added c).1.had &&
          !(trackAddress msg.index ip msg.prefixLen msg.isGlobal added c).1.hasNow) ∧
      e.familyGained =
        (!(trackAddress msg.index ip msg.prefixLen msg.isGlobal added c).1.had &&
          (trackAddress msg.index ip msg.prefixLen msg.isGlobal added c).1.hasNow) := by
  unfold addressEvent
  rw [hip]
  exact ⟨_, _, rfl, rfl, rfl, rfl, rfl, rfl⟩

/-- A message without an address leaves no trace. -/
theorem addressEvent_of_none (c : StateCache) (added : Bool)
    (hip : addressAttributes msg.attributes = none) : addressEvent msg added c = (none, c) := by
  unfold addressEvent
  rw [hip]

/-- The flags compare the family before and after; with the first known they are exact
    when the second is. -/
theorem flags_exact_iff {had hasNow : Bool} {before after : Prop} (hhad : had = true ↔ before) :
    (((had && !hasNow) = true ↔ before ∧ ¬ after) ∧
      ((!had && hasNow) = true ↔ ¬ before ∧ after)) ↔ (hasNow = true ↔ after) := by
  rw [← hhad]
  cases had <;> cases hasNow <;> simp

/-- An address notification makes an exact event if and only if it is sound, and a sound
    one keeps cache and table together. -/
theorem addressEvent_exact_iff (hs : Sync c t) {t' : Table}
    (ht' : ∀ ip, addressAttributes msg.attributes = some ip →
      t' = t.track msg.index (ip, msg.prefixLen) msg.isGlobal added)
    (hnone : addressAttributes msg.attributes = none → t' = t) :
    ((∀ event ∈ (addressEvent msg added c).1, ∀ e, event.payload = .address e →
        (e.familyLost = true ↔ t.HasGlobal e.interfaceIndex e.family ∧
          ¬ t'.HasGlobal e.interfaceIndex e.family) ∧
        (e.familyGained = true ↔ ¬ t.HasGlobal e.interfaceIndex e.family ∧
          t'.HasGlobal e.interfaceIndex e.family)) ↔
      ∀ ip ∈ addressAttributes msg.attributes,
        t.SoundFor msg.index (ip, msg.prefixLen) msg.isGlobal added) ∧
    ((∀ ip ∈ addressAttributes msg.attributes,
        t.SoundFor msg.index (ip, msg.prefixLen) msg.isGlobal added) →
      Sync (addressEvent msg added c).2 t') := by
  cases hip : addressAttributes msg.attributes with
  | none =>
    rw [addressEvent_of_none c added hip, hnone hip]
    exact ⟨by simp, fun _ => hs⟩
  | some ip =>
    -- One event, whose flags are those of the tracked family.
    obtain ⟨event, e, hevent, hpayload, hindex, hfamily, hlost, hgained⟩ :=
      addressEvent_eq c added hip
    have hhad := trackAddress_had hs msg.index ip msg.prefixLen msg.isGlobal added
    rw [hevent, ht' ip hip]
    simp only [Option.mem_def, Option.some.injEq, forall_eq']
    refine ⟨?_, fun hsound => hs.track hsound⟩
    rw [← trackAddress_hasNow hs, ← flags_exact_iff hhad]
    constructor
    · intro h
      have he := h e hpayload
      rw [hindex, hfamily, hlost, hgained] at he
      exact he
    · intro h e' he'
      rw [hpayload] at he'
      cases he'
      rw [hindex, hfamily, hlost, hgained]
      exact h

end Messages

section Lists

variable {c : StateCache} {t : Table}

/-- A link notification clears what it removes and touches nothing else. -/
theorem Sync.link (hs : Sync c t) (msg : LinkMessage) :
    Sync (linkEvent msg true c).2 t ∧ Sync (linkEvent msg false c).2 (t.clear msg.index) := by
  refine ⟨⟨hs.addresses, hs.flags⟩, ⟨?_, fun ip j => ?_⟩⟩
  · show Function.update c.addresses msg.index ∅ = Function.update t.held msg.index ∅
    rw [hs.addresses]
  · have hflags : j ∈ (linkEvent msg false c).2.hasGlobal ip.family
        ↔ j ≠ msg.index ∧ j ∈ c.hasGlobal ip.family := by
      cases ip <;> exact Finset.mem_erase
    rw [hflags, hs.flags]
    unfold Table.HasGlobal Table.clear
    by_cases hj : j = msg.index
    · subst hj
      simp
    · simp [hj]

/-- **One notification.**  While cache and table agree, the event is exact if and only if
    the notification is sound. -/
theorem exact_iff_sound (hs : Sync c t) (m : Message) :
    (Exact c t m ↔ t.Sound m) ∧ (t.Sound m → Sync (translate m c).2 (t.apply m)) := by
  cases m with
  | newLink msg =>
    refine ⟨iff_of_true ?_ trivial, fun _ => (hs.link msg).1⟩
    intro event hevent e he
    cases hevent
    cases he
  | delLink msg =>
    refine ⟨iff_of_true ?_ trivial, fun _ => (hs.link msg).2⟩
    intro event hevent e he
    cases hevent
    cases he
  | newAddress msg =>
    exact addressEvent_exact_iff hs (fun ip hip => by simp [Table.apply, hip]; rfl)
      (fun hip => by simp [Table.apply, hip])
  | delAddress msg =>
    exact addressEvent_exact_iff hs (fun ip hip => by simp [Table.apply, hip]; rfl)
      (fun hip => by simp [Table.apply, hip])

/-- From any cache and table that agree. -/
theorem allExact_iff_allSound (hs : Sync c t) (ms : List Message) :
    AllExact c t ms ↔ t.AllSound ms := by
  -- induction on the list; the invariant is that cache and table agree
  induction ms generalizing c t with
  | nil => exact Iff.rfl
  | cons m ms ih =>
    obtain ⟨hiff, hsync⟩ := exact_iff_sound hs m
    unfold AllExact Table.AllSound
    rw [hiff]
    exact and_congr_right fun hsound => ih (hsync hsound)

/-- **Family flags.**  Along every list of link and address notifications, from an empty
    cache, the flags of all address events are exact if and only if every notification of
    the list is sound. -/
theorem family_flags_exact_iff (ms : List Message) :
    AllExact .default .empty ms ↔ Table.empty.AllSound ms :=
  allExact_iff_allSound .default ms

/-- An interface has a global and a link-local IPv6 address and the global one is removed:
    the event does not say that the family was lost. -/
theorem link_local_address_hides_the_loss :
    ¬ AllExact .default .empty
      [.newAddress ⟨3, 64, .universe, [.address (.v6 0x20010db8000000000000000000000001#128)]⟩,
        .newAddress ⟨3, 64, .link, [.address (.v6 0xfe800000000000000000000000000001#128)]⟩,
        .delAddress ⟨3, 64, .universe, [.address (.v6 0x20010db8000000000000000000000001#128)]⟩] := by
  rw [allExact_iff_allSound .default]
  decide +kernel

/-- With a second global address of the family left, the same removal is sound. -/
example : Table.empty.AllSound
    [.newAddress ⟨3, 64, .universe, [.address (.v6 0x20010db8000000000000000000000001#128)]⟩,
      .newAddress ⟨3, 64, .universe, [.address (.v6 0x20010db8000000000000000000000002#128)]⟩,
      .newAddress ⟨3, 64, .link, [.address (.v6 0xfe800000000000000000000000000001#128)]⟩,
      .delAddress ⟨3, 64, .universe, [.address (.v6 0x20010db8000000000000000000000001#128)]⟩] := by
  decide +kernel

end Lists

end Netdiag.Watch
