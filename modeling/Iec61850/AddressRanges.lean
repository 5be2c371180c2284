import Iec61850.ParsedModel
import Iec61850.GeneratorControlBlocks

/-!
# The ranges of parsed addresses

A layer-2 address has a VLAN id of twelve bits, a priority of three, an
application id of sixteen, and six bytes of hardware address.  The parser checks
the upper bounds of the ids only, fills in its defaults only behind a parameter,
and takes −1 for a parameter that is missing.
-/

namespace Iec61850.Scl

open Go

/-! ## Ranges -/

def SixBytes (bytes : List ℤ) : Prop := bytes.length = 6 ∧ ∀ b ∈ bytes, 0 ≤ b ∧ b ≤ 255

structure PhyComAddress.InRange (address : PhyComAddress) : Prop where
  vlanId : 0 ≤ address.vlanId ∧ address.vlanId ≤ 0xfff
  vlanPriority : 0 ≤ address.vlanPriority ∧ address.vlanPriority ≤ 7
  appId : 0 ≤ address.appId ∧ address.appId ≤ 0xffff
  macAddress : SixBytes address.macAddress

/-- The fields of `PhyComAddress` in C, and the six bytes of its array. -/
structure PhyComAddressDefinition.FitsFields (d : PhyComAddressDefinition) : Prop where
  vlanPriority : 0 ≤ d.vlanPriority ∧ d.vlanPriority < 2 ^ 8
  vlanId : 0 ≤ d.vlanId ∧ d.vlanId < 2 ^ 16
  appId : 0 ≤ d.appId ∧ d.appId < 2 ^ 16
  dstAddress : SixBytes d.macAddress

theorem PhyComAddress.InRange.fitsFields {address : PhyComAddress} (h : address.InRange)
    (blockName : Str) : (addressDefinition blockName address).FitsFields where
  vlanPriority := ⟨h.vlanPriority.1, by
    change address.vlanPriority < 2 ^ 8
    have hbound := h.vlanPriority.2
    omega⟩
  vlanId := ⟨h.vlanId.1, by
    change address.vlanId < 2 ^ 16
    have hbound := h.vlanId.2
    omega⟩
  appId := ⟨h.appId.1, by
    change address.appId < 2 ^ 16
    have hbound := h.appId.2
    omega⟩
  dstAddress := h.macAddress

/-- The text denotes a value of the parameter. -/
structure AddressParameter.InRange (p : AddressParameter) : Prop where
  vlanId : p.type = lit "VLAN-ID" → ∃ n, parseInt p.value 16 32 = some n ∧ 0 ≤ n ∧ n ≤ 0xfff
  vlanPriority : p.type = lit "VLAN-PRIORITY" → ∃ n, atoi p.value = some n ∧ 0 ≤ n ∧ n ≤ 7
  appId : p.type = lit "APPID" → ∃ n, parseInt p.value 16 32 = some n ∧ 0 ≤ n ∧ n ≤ 0xffff
  macAddress : p.type = lit "MAC-Address" → (split '-' p.value).length = 6 ∧
    ∀ element ∈ split '-' p.value, (parseUint element 16 8).isSome

/-- A negative id, or a priority beyond three bits: what the parser does not check. -/
def AddressParameter.Unchecked (p : AddressParameter) : Prop :=
  ((p.type = lit "VLAN-ID" ∨ p.type = lit "APPID") ∧
    ∃ n, parseInt p.value 16 32 = some n ∧ n < 0) ∨
  p.type = lit "VLAN-PRIORITY" ∧ ∃ n, atoi p.value = some n ∧ ¬ (0 ≤ n ∧ n ≤ 7)

def PhyComAddress.GivesMac (address : PhyComAddress) : Prop :=
  ∃ p ∈ address.addressParameters, p.type = lit "MAC-Address"

/-! ## One parameter -/

theorem sixBytes_parseMacAddress {value : Str} {bytes : List ℤ}
    (h : parseMacAddress value = .ok bytes) :
    SixBytes bytes ∧ (split '-' value).length = 6 ∧
      ∀ element ∈ split '-' value, (parseUint element 16 8).isSome := by
  unfold parseMacAddress at h
  dsimp only at h
  split at h
  next => cases h
  next hlength =>
    have hlength : (split '-' value).length = 6 := not_not.mp hlength
    have helements := mapM_eq_ok.mp h
    refine ⟨⟨helements.length_eq.symm.trans hlength, fun b hb => ?_⟩, hlength,
      fun element helement => ?_⟩
    · obtain ⟨element, -, helement⟩ := exists_mem_of_forall₂ helements.flip hb
      cases hparsed : parseUint element 16 8 with
      | none =>
          rw [hparsed] at helement
          cases helement
      | some n =>
          rw [hparsed] at helement
          obtain rfl := Except.ok.inj helement
          have hn : n < 2 ^ 8 := by
            unfold parseUint at hparsed
            repeat' split at hparsed
            all_goals first
              | cases hparsed; done
              | (obtain rfl := Option.some.inj hparsed
                 assumption)
          omega
    · obtain ⟨b, -, helement⟩ := exists_mem_of_forall₂ helements helement
      cases hparsed : parseUint element 16 8 with
      | none =>
          rw [hparsed] at helement
          cases helement
      | some n => rfl

theorem parseBoundedHex_eq_ok {name value : Str} {bound n : ℤ}
    (h : parseBoundedHex name value bound = .ok n) :
    parseInt value 16 32 = some n ∧ n ≤ bound := by
  unfold parseBoundedHex at h
  split at h
  next m hparsed =>
    split at h
    next => cases h
    next hbound =>
      obtain rfl := Except.ok.inj h
      exact ⟨hparsed, Int.not_lt.mp hbound⟩
  next => cases h

/-- What an accepted parameter changes. -/
theorem parseAddressParameter_eq_ok {address parsed : PhyComAddress} {p : AddressParameter}
    (h : parseAddressParameter address p = .ok parsed) :
    (p.type = lit "VLAN-ID" ∧ ∃ n, parseInt p.value 16 32 = some n ∧ n ≤ 0xfff ∧
      parsed = { address with vlanId := n }) ∨
    (p.type = lit "VLAN-PRIORITY" ∧ ∃ n, atoi p.value = some n ∧
      parsed = { address with vlanPriority := n }) ∨
    (p.type = lit "APPID" ∧ ∃ n, parseInt p.value 16 32 = some n ∧ n ≤ 0xffff ∧
      parsed = { address with appId := n }) ∨
    (p.type = lit "MAC-Address" ∧ ∃ bytes, parseMacAddress p.value = .ok bytes ∧
      parsed = { address with macAddress := bytes }) ∨
    ((p.type ≠ lit "VLAN-ID" ∧ p.type ≠ lit "VLAN-PRIORITY" ∧ p.type ≠ lit "APPID" ∧
      p.type ≠ lit "MAC-Address") ∧ parsed = address) := by
  unfold parseAddressParameter at h
  split at h
  next htype =>
    obtain ⟨n, hn, h⟩ := bind_eq_ok.mp h
    obtain ⟨hparsed, hbound⟩ := parseBoundedHex_eq_ok hn
    exact Or.inl ⟨htype, n, hparsed, hbound, (Except.ok.inj h).symm⟩
  next hvlanId =>
    split at h
    next htype =>
      split at h
      next n hparsed =>
        exact Or.inr (Or.inl ⟨htype, n, hparsed, (Except.ok.inj h).symm⟩)
      next => cases h
    next hvlanPriority =>
      split at h
      next htype =>
        obtain ⟨n, hn, h⟩ := bind_eq_ok.mp h
        obtain ⟨hparsed, hbound⟩ := parseBoundedHex_eq_ok hn
        exact Or.inr (Or.inr (Or.inl ⟨htype, n, hparsed, hbound, (Except.ok.inj h).symm⟩))
      next happId =>
        split at h
        next htype =>
          obtain ⟨bytes, hbytes, h⟩ := bind_eq_ok.mp h
          exact Or.inr (Or.inr (Or.inr (Or.inl ⟨htype, bytes, hbytes, (Except.ok.inj h).symm⟩)))
        next hmac =>
          exact Or.inr (Or.inr (Or.inr (Or.inr
            ⟨⟨hvlanId, hvlanPriority, happId, hmac⟩, (Except.ok.inj h).symm⟩)))

/-- An accepted parameter has a value of its range unless it is one that is not checked. -/
theorem AddressParameter.inRange_iff {address parsed : PhyComAddress} {p : AddressParameter}
    (h : parseAddressParameter address p = .ok parsed) : p.InRange ↔ ¬ p.Unchecked := by
  constructor
  · rintro hrange (⟨htype | htype, n, hn, hnegative⟩ | ⟨htype, n, hn, hout⟩)
    · obtain ⟨m, hm, hlow, -⟩ := hrange.vlanId htype
      obtain rfl := Option.some.inj (hn.symm.trans hm)
      omega
    · obtain ⟨m, hm, hlow, -⟩ := hrange.appId htype
      obtain rfl := Option.some.inj (hn.symm.trans hm)
      omega
    · obtain ⟨m, hm, hbounds⟩ := hrange.vlanPriority htype
      obtain rfl := Option.some.inj (hn.symm.trans hm)
      exact hout hbounds
  · intro hchecked
    have hapart : (lit "VLAN-ID" ≠ lit "VLAN-PRIORITY" ∧ lit "VLAN-ID" ≠ lit "APPID" ∧
        lit "VLAN-ID" ≠ lit "MAC-Address") ∧ (lit "VLAN-PRIORITY" ≠ lit "APPID" ∧
        lit "VLAN-PRIORITY" ≠ lit "MAC-Address") ∧ lit "APPID" ≠ lit "MAC-Address" := by
      decide +kernel
    obtain ⟨⟨h12, h13, h14⟩, ⟨h23, h24⟩, h34⟩ := hapart
    rcases parseAddressParameter_eq_ok h with ⟨htype, n, hn, hbound, -⟩ | ⟨htype, n, hn, -⟩ |
      ⟨htype, n, hn, hbound, -⟩ | ⟨htype, bytes, hbytes, -⟩ | ⟨⟨h1, h2, h3, h4⟩, -⟩
    · have hlow : 0 ≤ n := by
        by_contra hnegative
        exact hchecked (Or.inl ⟨Or.inl htype, n, hn, Int.not_le.mp hnegative⟩)
      constructor <;> rw [htype]
      · exact fun _ => ⟨n, hn, hlow, hbound⟩
      · exact fun heq => absurd heq h12
      · exact fun heq => absurd heq h13
      · exact fun heq => absurd heq h14
    · have hbounds : 0 ≤ n ∧ n ≤ 7 := by
        by_contra hout
        exact hchecked (Or.inr ⟨htype, n, hn, hout⟩)
      constructor <;> rw [htype]
      · exact fun heq => absurd heq.symm h12
      · exact fun _ => ⟨n, hn, hbounds⟩
      · exact fun heq => absurd heq h23
      · exact fun heq => absurd heq h24
    · have hlow : 0 ≤ n := by
        by_contra hnegative
        exact hchecked (Or.inl ⟨Or.inr htype, n, hn, Int.not_le.mp hnegative⟩)
      constructor <;> rw [htype]
      · exact fun heq => absurd heq.symm h13
      · exact fun heq => absurd heq.symm h23
      · exact fun _ => ⟨n, hn, hlow, hbound⟩
      · exact fun heq => absurd heq h34
    · constructor <;> rw [htype]
      · exact fun heq => absurd heq.symm h14
      · exact fun heq => absurd heq.symm h24
      · exact fun heq => absurd heq.symm h34
      · exact fun _ => (sixBytes_parseMacAddress hbytes).2
    · exact ⟨fun heq => absurd heq h1, fun heq => absurd heq h2, fun heq => absurd heq h3,
        fun heq => absurd heq h4⟩

/-! ## One address -/

/-- −1 for a missing parameter, or a value of the range. -/
def UnsetOr (bound n : ℤ) : Prop := n = -1 ∨ (0 ≤ n ∧ n ≤ bound)

structure PhyComAddress.Scanned (address : PhyComAddress) : Prop where
  vlanId : UnsetOr 0xfff address.vlanId
  vlanPriority : UnsetOr 7 address.vlanPriority
  appId : UnsetOr 0xffff address.appId

theorem scanned_parseAddressParameter {address parsed : PhyComAddress} {p : AddressParameter}
    (hp : p.InRange) (h : parseAddressParameter address p = .ok parsed)
    (haddress : address.Scanned) : parsed.Scanned := by
  rcases parseAddressParameter_eq_ok h with ⟨htype, n, hn, -, rfl⟩ | ⟨htype, n, hn, rfl⟩ |
    ⟨htype, n, hn, -, rfl⟩ | ⟨htype, bytes, -, rfl⟩ | ⟨-, rfl⟩
  · obtain ⟨m, hm, hbounds⟩ := hp.vlanId htype
    obtain rfl := Option.some.inj (hn.symm.trans hm)
    exact { haddress with vlanId := Or.inr hbounds }
  · obtain ⟨m, hm, hbounds⟩ := hp.vlanPriority htype
    obtain rfl := Option.some.inj (hn.symm.trans hm)
    exact { haddress with vlanPriority := Or.inr hbounds }
  · obtain ⟨m, hm, hbounds⟩ := hp.appId htype
    obtain rfl := Option.some.inj (hn.symm.trans hm)
    exact { haddress with appId := Or.inr hbounds }
  · exact { haddress with }
  · exact haddress

/-- The hardware address is the one given last, or the one from before. -/
theorem macAddress_parameters {params : List AddressParameter} {address parsed : PhyComAddress}
    (h : params.foldlM parseAddressParameter address = .ok parsed) :
    (SixBytes parsed.macAddress ∨ parsed.macAddress = address.macAddress) ∧
      ((∃ p ∈ params, p.type = lit "MAC-Address") → SixBytes parsed.macAddress) ∧
      (¬ (∃ p ∈ params, p.type = lit "MAC-Address") →
        parsed.macAddress = address.macAddress) := by
  induction params generalizing address with
  | nil =>
      obtain rfl := Except.ok.inj h
      exact ⟨Or.inr rfl, by simp, fun _ => rfl⟩
  | cons p rest ih =>
      rw [List.foldlM_cons] at h
      obtain ⟨between, hbetween, hrest⟩ := bind_eq_ok.mp h
      obtain ⟨hlast, hgiven, hkept⟩ := ih hrest
      by_cases hmac : p.type = lit "MAC-Address"
      · have hsix : SixBytes between.macAddress := by
          rcases parseAddressParameter_eq_ok hbetween with ⟨htype, -⟩ | ⟨htype, -⟩ |
            ⟨htype, -⟩ | ⟨-, bytes, hbytes, rfl⟩ | ⟨hother, -⟩
          · exact absurd (hmac.symm.trans htype) (by decide +kernel)
          · exact absurd (hmac.symm.trans htype) (by decide +kernel)
          · exact absurd (hmac.symm.trans htype) (by decide +kernel)
          · exact (sixBytes_parseMacAddress hbytes).1
          · exact absurd hmac hother.2.2.2
        have hparsed : SixBytes parsed.macAddress := by
          rcases hlast with hsame | hsame
          · exact hsame
          · rw [hsame]
            exact hsix
        exact ⟨Or.inl hparsed, fun _ => hparsed,
          fun hnone => absurd ⟨p, List.mem_cons_self, hmac⟩ hnone⟩
      · have hsame : between.macAddress = address.macAddress := by
          rcases parseAddressParameter_eq_ok hbetween with ⟨-, n, -, -, rfl⟩ | ⟨-, n, -, rfl⟩ |
            ⟨-, n, -, -, rfl⟩ | ⟨htype, -⟩ | ⟨-, rfl⟩
          · rfl
          · rfl
          · rfl
          · exact absurd htype hmac
          · rfl
        have hiff : (∃ q ∈ p :: rest, q.type = lit "MAC-Address") ↔
            ∃ q ∈ rest, q.type = lit "MAC-Address" := by
          simp [hmac]
        rw [hiff, ← hsame]
        exact ⟨hlast, hgiven, hkept⟩

/-- The value of a parameter, with a default for the missing one. -/
theorem inRange_of_unsetOr {bound n default : ℤ} (h : UnsetOr bound n)
    (hdefault : 0 ≤ default ∧ default ≤ bound) :
    0 ≤ (if n = -1 then default else n) ∧ (if n = -1 then default else n) ≤ bound := by
  split
  next => exact hdefault
  next hset => exact h.resolve_left hset

theorem sixBytes_defaultMacAddress : SixBytes defaultMacAddress := by
  constructor <;> decide

/-- There are parameters, none of them is one that the parser should have rejected, and
the hardware address is left to them; without parameters the fields are in range
already. -/
def PhyComAddress.Sound (address : PhyComAddress) : Prop :=
  if address.addressParameters = [] then address.InRange
  else (∀ p ∈ address.addressParameters, ¬ p.Unchecked) ∧
    (address.GivesMac ∨ address.macAddress = [] ∨ SixBytes address.macAddress)

theorem inRange_parsePhyComAddress_iff {address parsed : PhyComAddress}
    (h : parsePhyComAddress address = .ok parsed) :
    (parsed.InRange ∧ ∀ p ∈ address.addressParameters, p.InRange) ↔ address.Sound := by
  unfold parsePhyComAddress at h
  unfold PhyComAddress.Sound
  by_cases hnone : address.addressParameters = []
  · rw [if_pos hnone] at h ⊢
    obtain rfl := Except.ok.inj h
    simp [hnone]
  · rw [if_neg hnone] at h ⊢
    obtain ⟨scanned, hscanned, h⟩ := bind_eq_ok.mp h
    obtain rfl := Except.ok.inj h
    obtain ⟨hlast, hgiven, hkept⟩ := macAddress_parameters hscanned
    have hparameters : (∀ p ∈ address.addressParameters, p.InRange) ↔
        ∀ p ∈ address.addressParameters, ¬ p.Unchecked := by
      apply forall₂_congr
      intro p hp
      obtain ⟨before, after, hstep⟩ := exists_of_foldlM_ok hscanned hp
      exact AddressParameter.inRange_iff hstep
    rw [hparameters]
    constructor
    · rintro ⟨hrange, hchecked⟩
      refine ⟨hchecked, ?_⟩
      by_cases hmac : address.GivesMac
      · exact Or.inl hmac
      · have hsix := hrange.macAddress
        have hsame : scanned.macAddress = address.macAddress := hkept hmac
        dsimp only at hsix
        rw [hsame] at hsix
        by_cases hempty : address.macAddress = []
        · exact Or.inr (Or.inl hempty)
        · rw [if_neg hempty] at hsix
          exact Or.inr (Or.inr hsix)
    · rintro ⟨hchecked, hmac⟩
      refine ⟨?_, hchecked⟩
      have hranges := hparameters.mpr hchecked
      have hfields : scanned.Scanned := by
        refine foldlM_invariant (P := PhyComAddress.Scanned) hscanned
          ⟨Or.inl rfl, Or.inl rfl, Or.inl rfl⟩ ?_
        intro before after p hp hbefore hstep
        exact scanned_parseAddressParameter (hranges p hp) hstep hbefore
      refine ⟨inRange_of_unsetOr hfields.vlanId (by decide),
        inRange_of_unsetOr hfields.vlanPriority (by decide),
        inRange_of_unsetOr hfields.appId (by decide), ?_⟩
      dsimp only
      by_cases hgivesMac : address.GivesMac
      · have hsix := hgiven hgivesMac
        rw [if_neg (fun hnil => by rw [hnil] at hsix; cases hsix.1)]
        exact hsix
      · have hsame : scanned.macAddress = address.macAddress := hkept hgivesMac
        rw [hsame]
        split
        next => exact sixBytes_defaultMacAddress
        next hne => exact (hmac.resolve_left hgivesMac).resolve_left hne

/-! ## Documents -/

/-- The `Address` elements of the `GSE` and `SMV` elements. -/
def ConnectedAP.phyComAddresses (connectedAP : ConnectedAP) : List PhyComAddress :=
  connectedAP.gesNodes.filterMap (·.address) ++ connectedAP.smvNodes.filterMap (·.address)

def SCL.phyComAddresses (scl : SCL) : List PhyComAddress :=
  scl.communication.toList.flatMap fun communication =>
    communication.subNetworks.flatMap fun subNetwork =>
      subNetwork.connectedAP.flatMap ConnectedAP.phyComAddresses

/-- `Parse` takes every address of the document to the one of the model in its place. -/
def ParsedAddress (address parsed : PhyComAddress) : Prop :=
  parsePhyComAddress address = .ok parsed

variable {rt : Runtime}

theorem parsedAddress_parseAddress {address? parsed? : Option PhyComAddress}
    (h : parseAddress address? = .ok parsed?) : Option.Rel ParsedAddress address? parsed? := by
  cases address? with
  | none =>
      obtain rfl := Except.ok.inj h
      exact .none
  | some address =>
      obtain ⟨parsed, hparsed, h⟩ := bind_eq_ok.mp h
      obtain rfl := Except.ok.inj h
      exact .some hparsed

theorem parsedAddresses_parseConnectedAP {connectedAP parsed : ConnectedAP}
    (h : parseConnectedAP rt connectedAP = .ok parsed) :
    List.Forall₂ ParsedAddress connectedAP.phyComAddresses parsed.phyComAddresses := by
  obtain ⟨gesNodes, hgesNodes, h⟩ := bind_eq_ok.mp h
  obtain ⟨smvNodes, hsmvNodes, h⟩ := bind_eq_ok.mp h
  obtain rfl := Except.ok.inj h
  have hgse : List.Forall₂ ParsedAddress (connectedAP.gesNodes.filterMap (·.address))
      (gesNodes.filterMap (·.address)) := by
    refine List.rel_filterMap (fun gse gse' hgse => ?_) (mapM_eq_ok.mp hgesNodes)
    obtain ⟨maxTime, -, hgse⟩ := bind_eq_ok.mp hgse
    obtain ⟨minTime, -, hgse⟩ := bind_eq_ok.mp hgse
    obtain ⟨address?, haddress, hgse⟩ := bind_eq_ok.mp hgse
    obtain rfl := Except.ok.inj hgse
    exact parsedAddress_parseAddress haddress
  have hsmv : List.Forall₂ ParsedAddress (connectedAP.smvNodes.filterMap (·.address))
      (smvNodes.filterMap (·.address)) := by
    refine List.rel_filterMap (fun smv smv' hsmv => ?_) (mapM_eq_ok.mp hsmvNodes)
    obtain ⟨address?, haddress, hsmv⟩ := bind_eq_ok.mp hsmv
    obtain rfl := Except.ok.inj hsmv
    exact parsedAddress_parseAddress haddress
  exact List.rel_append hgse hsmv

theorem ParsedModel.parsedAddresses (P : ParsedModel rt) :
    List.Forall₂ ParsedAddress P.document.phyComAddresses P.model.phyComAddresses := by
  obtain ⟨_, _, _, communication, -, -, -, -, hcommunication, hmodel⟩ := P.stages
  rw [hmodel]
  unfold SCL.phyComAddresses
  dsimp only
  cases hsource : P.document.communication with
  | none =>
      rw [hsource] at hcommunication
      obtain rfl := Except.ok.inj hcommunication
      exact .nil
  | some source =>
      rw [hsource] at hcommunication
      obtain ⟨subNetworks, hsubNetworks, hcommunication⟩ := bind_eq_ok.mp hcommunication
      obtain rfl := Except.ok.inj hcommunication
      simp only [Option.toList_some, List.flatMap_singleton]
      refine List.rel_flatMap (mapM_eq_ok.mp hsubNetworks) fun subNetwork parsed hparsed => ?_
      obtain ⟨connectedAP, hconnectedAP, hparsed⟩ := bind_eq_ok.mp hparsed
      obtain rfl := Except.ok.inj hparsed
      exact List.rel_flatMap (mapM_eq_ok.mp hconnectedAP)
        fun _ _ => parsedAddresses_parseConnectedAP

/-- The address in the model is complete and in range, as is its definition in C, and
every text has denoted a value of its parameter. -/
structure AddressInRange (address parsed : PhyComAddress) : Prop where
  inRange : parsed.InRange
  printed : ∀ blockName, (addressDefinition blockName parsed).FitsFields
  parameters : ∀ p ∈ address.addressParameters, p.InRange

/-- Of every address of an accepted document. -/
theorem parsed_addresses_inRange_iff (P : ParsedModel rt) :
    List.Forall₂ (fun address parsed => AddressInRange address parsed ↔ address.Sound)
      P.document.phyComAddresses P.model.phyComAddresses := by
  refine P.parsedAddresses.imp fun address parsed hparsed => ?_
  rw [← inRange_parsePhyComAddress_iff hparsed]
  constructor
  · intro h
    exact ⟨h.inRange, h.parameters⟩
  · rintro ⟨hrange, hparameters⟩
    exact ⟨hrange, fun blockName => hrange.fitsFields blockName, hparameters⟩

/-- An address of sampled values with the VLAN id −5. -/
def negativeVlanDocument : SCL :=
  { documentOf {} [{
      inst := lit "LD1", ln0 := some { lnClass := lit "LLN0", lnType := lit "LN0T" } }] with
    dataTypeTemplates := some { logicalNodeTypes := [{ id := lit "LN0T" }] }
    communication := some { subNetworks := [{ connectedAP := [{
      iedName := lit "IED1"
      apName := lit "AP1"
      smvNodes := [{
        ldInst := lit "LD1"
        cbName := lit "sv1"
        address := some { addressParameters := [⟨lit "VLAN-ID", lit "-5"⟩] } }] }] }] } }

def negativeVlanModel : ParsedModel plainRuntime :=
  ParsedModel.ofDocument plainRuntime 4 negativeVlanDocument (by decide +kernel)

/-- It is accepted and stays negative. -/
theorem negativeVlanModel_not_inRange :
    ¬ List.Forall₂ AddressInRange negativeVlanModel.document.phyComAddresses
      negativeVlanModel.model.phyComAddresses := by
  have hmodel : negativeVlanModel.model.phyComAddresses.map (·.vlanId) = [-5] := by
    decide +kernel
  intro h
  obtain ⟨parsed, hparsed, hvlanId⟩ : ∃ parsed ∈ negativeVlanModel.model.phyComAddresses,
      parsed.vlanId = -5 := by
    apply List.mem_map.mp
    rw [hmodel]
    exact List.mem_singleton_self _
  obtain ⟨address, -, hrange⟩ := exists_mem_of_forall₂ h.flip hparsed
  have hlow := hrange.inRange.vlanId.1
  omega

end Iec61850.Scl
