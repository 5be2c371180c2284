import Iec61850.ReportInstances

/-!
# Reserved clients

An instance of an indexed report control block may be reserved for a client.
The address of the client is looked up in the communication section by its IED
and access point, and the kind of the address is put before its bytes.
-/

namespace Iec61850.Scl

open Go

/-! ## The configured address -/

/-- The first parameter of type `IP`. -/
def ConnectedAP.ipAddress (connectedAP : ConnectedAP) : Option Str :=
  connectedAP.address.bind fun address =>
    (address.addressParameters.find? fun p => p.type = lit "IP").map AddressParameter.value

/-- The address in the connected access point of an IED; of the one that is named,
if one is. -/
def Communication.configuredIp (communication : Communication) (iedName apRef : Str) :
    Option Str :=
  (communication.subNetworks.flatMap SubNetwork.connectedAP).findSome? fun connectedAP =>
    if connectedAP.iedName = iedName ∧ (apRef = [] ∨ connectedAP.apName = apRef) then
      connectedAP.ipAddress
    else none

theorem find?_flatMap_filter {α β : Type} (p : β → Bool) (q : α → Bool) (f : α → List β)
    (xs : List α) :
    ((xs.filter q).flatMap f).find? p =
      xs.findSome? fun x => if q x then (f x).find? p else none := by
  induction xs with
  | nil => rfl
  | cons x rest ih =>
      by_cases hx : q x = true
      · rw [List.filter_cons_of_pos hx, List.flatMap_cons, List.find?_append, ih,
          List.findSome?_cons, if_pos hx]
        cases (f x).find? p <;> rfl
      · rw [List.filter_cons_of_neg hx, ih, List.findSome?_cons, if_neg hx]

theorem findSome?_map {α β γ : Type} (f : α → Option β) (g : β → γ) (xs : List α) :
    (xs.findSome? f).map g = xs.findSome? fun x => (f x).map g := by
  induction xs with
  | nil => rfl
  | cons x rest ih =>
      rw [List.findSome?_cons, List.findSome?_cons]
      cases f x with
      | none => exact ih
      | some b => rfl

/-- The parameters that are searched for the client of a report. -/
def ConnectedAP.parametersFor (iedName apRef : Str) (connectedAP : ConnectedAP) :
    Option AddressParameter :=
  if (apRef = [] ∨ connectedAP.apName = apRef) ∧ connectedAP.iedName ≠ [] ∧
      connectedAP.iedName = iedName then
    (match connectedAP.address with
      | some address => address.addressParameters
      | none => []).find? fun p => p.type = lit "IP"
  else none

theorem ConnectedAP.map_parametersFor {iedName apRef : Str} (hied : iedName ≠ [])
    (connectedAP : ConnectedAP) :
    (connectedAP.parametersFor iedName apRef).map AddressParameter.value =
      if connectedAP.iedName = iedName ∧ (apRef = [] ∨ connectedAP.apName = apRef) then
        connectedAP.ipAddress
      else none := by
  by_cases hmatches : connectedAP.iedName = iedName ∧
      (apRef = [] ∨ connectedAP.apName = apRef)
  · rw [if_pos hmatches, parametersFor,
      if_pos ⟨hmatches.2, by rw [hmatches.1]; exact hied, hmatches.1⟩, ConnectedAP.ipAddress]
    cases connectedAP.address <;> rfl
  · rw [if_neg hmatches, parametersFor, if_neg fun h => hmatches ⟨h.2.2, h.1⟩]
    rfl

theorem getIpAddressByIedName_eq {communication : Communication} {iedName apRef : Str}
    (hied : iedName ≠ []) :
    communication.getIpAddressByIedName iedName apRef =
      (communication.configuredIp iedName apRef).getD [] := by
  have hconfigured : communication.configuredIp iedName apRef =
      ((communication.subNetworks.flatMap SubNetwork.connectedAP).findSome?
        (ConnectedAP.parametersFor iedName apRef)).map AddressParameter.value := by
    rw [findSome?_map]
    simp only [ConnectedAP.map_parametersFor hied]
    rfl
  rw [hconfigured]
  unfold Communication.getIpAddressByIedName
  dsimp only
  rw [find?_flatMap_filter]
  simp only [decide_eq_true_eq]
  split
  next p hfound =>
    have hsearched : (communication.subNetworks.flatMap SubNetwork.connectedAP).findSome?
        (ConnectedAP.parametersFor iedName apRef) = some p := hfound
    rw [hsearched]
    rfl
  next hnone =>
    have hsearched : (communication.subNetworks.flatMap SubNetwork.connectedAP).findSome?
        (ConnectedAP.parametersFor iedName apRef) = none := hnone
    rw [hsearched]
    rfl

/-! ## Reservations -/

/-- The address is resolved as documented: a literal to its bytes, of which `To4`
takes the last four for an IPv4 literal, and the empty text to no bytes. -/
structure ResolvesLiterals (rt : Runtime) (ipv4 ipv6 : Str → Option (List UInt8)) : Prop where
  ipv4 : ∀ text bytes, ipv4 text = some bytes →
    bytes.length = 4 ∧ ∃ ip, rt.resolveIPAddr text = some ip ∧ ipTo4 ip = some bytes
  ipv6 : ∀ text bytes, ipv6 text = some bytes →
    bytes.length = 16 ∧ rt.resolveIPAddr text = some bytes
  empty : rt.resolveIPAddr [] = some []

/-- The address configured for the client of the `i`-th instance. -/
def clientIp (communication : Option Communication) (clientLNs : List ClientLN) (i : ℕ) :
    Option Str := do
  let client ← clientLNs[i]?
  if client.iedName = [] then none
  else
    let communication ← communication
    communication.configuredIp client.iedName client.apRef

/-- The seventeen bytes that stand for the address: its kind and its bytes, and
zeros without an address. -/
structure Reserves (ipv4 ipv6 : Str → Option (List UInt8)) (address : Option Str)
    (reservation : List UInt8) : Prop where
  ipv4 : ∀ text bytes, address = some text → ipv4 text = some bytes →
    reservation = 4 :: (bytes ++ List.replicate 12 0)
  ipv6 : ∀ text bytes, address = some text → ipv6 text = some bytes → reservation = 6 :: bytes
  unconfigured : address.getD [] = [] → reservation = List.replicate 17 0

/-- A client that is named has an address in the communication section, and not an
IPv6 address that stands for an IPv4 address. -/
def NamedClientHasAddress (ipv6 : Str → Option (List UInt8))
    (communication : Option Communication) (clientLNs : List ClientLN) (i : ℕ) : Prop :=
  ∀ client, clientLNs[i]? = some client → client.iedName ≠ [] →
    ∃ text, clientIp communication clientLNs i = some text ∧ text ≠ [] ∧
      ∀ bytes, ipv6 text = some bytes → ipTo4 bytes = none

section Address

variable {rt : Runtime} {ipv4 ipv6 : Str → Option (List UInt8)}

theorem noClientAddress_eq : noClientAddress = List.replicate 17 0 := by
  decide

theorem clientAddress_four {bytes : List UInt8} (hlength : bytes.length = 4) :
    clientAddress 4 bytes = 4 :: (bytes ++ List.replicate 12 0) := by
  simp [clientAddress, hlength]

theorem clientAddress_six {bytes : List UInt8} (hlength : bytes.length = 16) :
    clientAddress 6 (ipTo16 bytes) = 6 :: bytes := by
  simp [clientAddress, ipTo16, hlength]

theorem Reserves.of_none : Reserves ipv4 ipv6 none noClientAddress where
  ipv4 := by simp
  ipv6 := by simp
  unconfigured := fun _ => noClientAddress_eq

/-- What is reserved for an address that has been looked up. -/
def reservationOf (rt : Runtime) (address : Str) : List UInt8 :=
  match rt.resolveIPAddr address with
  | none => noClientAddress
  | some ip =>
      match ipTo4 ip with
      | some ip4 => clientAddress 4 ip4
      | none => clientAddress 6 (ipTo16 ip)

theorem reservationOf_empty (hresolves : ResolvesLiterals rt ipv4 ipv6) :
    reservationOf rt [] = 6 :: List.replicate 16 0 := by
  simp only [reservationOf, hresolves.empty]
  decide

theorem reservationOf_ipv4 (hresolves : ResolvesLiterals rt ipv4 ipv6) {text : Str}
    {bytes : List UInt8} (htext : ipv4 text = some bytes) :
    reservationOf rt text = 4 :: (bytes ++ List.replicate 12 0) := by
  obtain ⟨hlength, ip, hip, hbytes⟩ := hresolves.ipv4 text bytes htext
  simp only [reservationOf, hip, hbytes, clientAddress_four hlength]

theorem reservationOf_ipv6 (hresolves : ResolvesLiterals rt ipv4 ipv6) {text : Str}
    {bytes : List UInt8} (htext : ipv6 text = some bytes) :
    reservationOf rt text = 6 :: bytes ↔ ipTo4 bytes = none := by
  obtain ⟨hlength, hip⟩ := hresolves.ipv6 text bytes htext
  cases hbytes : ipTo4 bytes with
  | none => simp only [reservationOf, hip, hbytes, clientAddress_six hlength]
  | some ip4 => simp [reservationOf, hip, hbytes, clientAddress]

/-- Without an address the kind alone makes the reservation a wrong one. -/
theorem reserves_reservationOf_iff (hresolves : ResolvesLiterals rt ipv4 ipv6)
    (address : Option Str) :
    Reserves ipv4 ipv6 address (reservationOf rt (address.getD [])) ↔
      ∃ text, address = some text ∧ text ≠ [] ∧
        ∀ bytes, ipv6 text = some bytes → ipTo4 bytes = none := by
  by_cases hempty : address.getD [] = []
  · constructor
    · intro h
      have hzero := h.unconfigured hempty
      rw [hempty, reservationOf_empty hresolves] at hzero
      exact absurd hzero (by decide)
    · rintro ⟨text, rfl, hne, -⟩
      exact absurd hempty hne
  · obtain ⟨text, rfl⟩ : ∃ text, address = some text := by
      cases address with
      | none => exact absurd rfl hempty
      | some text => exact ⟨text, rfl⟩
    rw [Option.getD_some] at hempty ⊢
    constructor
    · intro h
      refine ⟨text, rfl, hempty, fun bytes hbytes => ?_⟩
      exact (reservationOf_ipv6 hresolves hbytes).mp (h.ipv6 text bytes rfl hbytes)
    · rintro ⟨_, hsome, -, hmapped⟩
      obtain rfl := Option.some.inj hsome
      exact {
        ipv4 := by
          intro _ bytes hsome hbytes
          obtain rfl := Option.some.inj hsome
          exact reservationOf_ipv4 hresolves hbytes
        ipv6 := by
          intro _ bytes hsome hbytes
          obtain rfl := Option.some.inj hsome
          exact (reservationOf_ipv6 hresolves hbytes).mpr (hmapped bytes hbytes)
        unconfigured := fun hnil => absurd hnil hempty }

end Address

section Reserved

variable {ctx : ControlBlockContext} {ipv4 ipv6 : Str → Option (List UInt8)}
  {clientLNs : List ClientLN} {i : ℕ} {client : ClientLN}

theorem reservedClient_of_named (hclient : clientLNs[i]? = some client)
    (hnamed : client.iedName ≠ []) {communication : Communication}
    (hcommunication : ctx.communication = some communication) :
    reservedClient ctx clientLNs i =
      .ok (reservationOf ctx.rt ((clientIp ctx.communication clientLNs i).getD [])) := by
  have hip : clientIp ctx.communication clientLNs i =
      communication.configuredIp client.iedName client.apRef := by
    simp [clientIp, hclient, hnamed, hcommunication]
  rw [hip, ← getIpAddressByIedName_eq hnamed]
  simp only [reservedClient, hclient, hnamed, if_false, hcommunication, deref, reservationOf]
  change (match ctx.rt.resolveIPAddr _ with
    | none => pure noClientAddress
    | some ip => _) = _
  cases ctx.rt.resolveIPAddr
      (communication.getIpAddressByIedName client.iedName client.apRef) with
  | none => rfl
  | some ip =>
      dsimp only
      cases ipTo4 ip <;> rfl

/-- The function returns the right bytes if and only if a client that is named has
an address. -/
theorem reservedClient_iff (ctx : ControlBlockContext)
    (hresolves : ResolvesLiterals ctx.rt ipv4 ipv6) (clientLNs : List ClientLN) (i : ℕ) :
    (∃ reservation, reservedClient ctx clientLNs i = .ok reservation ∧
        Reserves ipv4 ipv6 (clientIp ctx.communication clientLNs i) reservation) ↔
      NamedClientHasAddress ipv6 ctx.communication clientLNs i := by
  cases hclient : clientLNs[i]? with
  | none =>
      have hip : clientIp ctx.communication clientLNs i = none := by
        simp [clientIp, hclient]
      simp only [NamedClientHasAddress, hclient, reduceCtorEq, false_implies, implies_true,
        iff_true, hip]
      exact ⟨noClientAddress, by simp only [reservedClient, hclient]; rfl, .of_none⟩
  | some client =>
      by_cases hnamed : client.iedName = []
      · have hip : clientIp ctx.communication clientLNs i = none := by
          simp [clientIp, hclient, hnamed]
        simp only [NamedClientHasAddress, hclient, Option.some.injEq, forall_eq', hnamed,
          ne_eq, not_true_eq_false, false_implies, iff_true, hip]
        exact ⟨noClientAddress, by simp only [reservedClient, hclient, hnamed, if_true]; rfl,
          .of_none⟩
      · simp only [NamedClientHasAddress, hclient, Option.some.injEq, forall_eq', ne_eq, hnamed,
          not_false_eq_true, forall_const]
        cases hcommunication : ctx.communication with
        | none =>
            have hpanic : reservedClient ctx clientLNs i = deref none := by
              simp only [reservedClient, hclient, hnamed, if_false, hcommunication]
              rfl
            have hip : clientIp none clientLNs i = none := by
              simp [clientIp, hclient]
            simp [hpanic, hip, deref]
        | some communication =>
            rw [← hcommunication, reservedClient_of_named hclient hnamed hcommunication,
              ← reserves_reservationOf_iff hresolves]
            simp only [Except.ok.injEq, exists_eq_left']

end Reserved

/-! ## All instances of a run -/

variable {rt : Runtime}

theorem PrintedReport.reservedClient_eq {ctx : ControlBlockContext} {lnPrefix : Str}
    {rcb : ReportControl} {printed : List ReportControlBlockDefinition}
    (h : PrintedReport ctx lnPrefix rcb printed) (hindexed : rcb.indexed = true) {i : ℕ}
    {block : ReportControlBlockDefinition} (hblock : printed[i]? = some block) :
    reservedClient ctx rcb.clientLNs i = .ok block.clientReservation := by
  obtain ⟨hlength, hclients⟩ := List.forall₂_iff_get.mp (h.clients hindexed)
  obtain ⟨hi, rfl⟩ := List.getElem?_eq_some_iff.mp hblock
  have hclient := hclients i (by omega) hi
  rwa [List.get_eq_getElem, List.getElem_range] at hclient

/-- A runtime that resolves one IPv4 literal, one IPv6 literal and the empty text. -/
def literalRuntime : Runtime :=
  { plainRuntime with
    resolveIPAddr := fun text =>
      if text = lit "10.0.0.7" then
        some (List.replicate 10 0 ++ [0xff, 0xff] ++ [10, 0, 0, 7])
      else if text = lit "fd00::7" then some (0xfd :: (List.replicate 14 0 ++ [7]))
      else if text = [] then some []
      else none }

def ipv4Literal (text : Str) : Option (List UInt8) :=
  if text = lit "10.0.0.7" then some [10, 0, 0, 7] else none

def ipv6Literal (text : Str) : Option (List UInt8) :=
  if text = lit "fd00::7" then some (0xfd :: (List.replicate 14 0 ++ [7])) else none

theorem resolvesLiterals_literalRuntime :
    ResolvesLiterals literalRuntime ipv4Literal ipv6Literal where
  ipv4 := by
    intro text bytes h
    unfold ipv4Literal at h
    split at h
    next htext =>
      obtain rfl := Option.some.inj h
      rw [htext]
      exact ⟨by decide, _, rfl, by decide⟩
    next => cases h
  ipv6 := by
    intro text bytes h
    unfold ipv6Literal at h
    split at h
    next htext =>
      obtain rfl := Option.some.inj h
      rw [htext]
      exact ⟨by decide, by decide⟩
    next => cases h
  empty := by decide

/-- A device with a report for two clients, only the first of which has an address. -/
def clientsDevice : LogicalDevice where
  inst := lit "LD1"
  ln0 := some {
    lnClass := lit "LLN0"
    lnType := lit "LN0T"
    reportControlBlocks := [{
      name := lit "events"
      rptEnabled := some {
        maxStr := lit "3"
        clientLNs := [{ iedName := lit "Client1" }, { iedName := lit "Client2" }] } }] }

def clientsDocument : SCL where
  ieds := (documentOf measurementTemplates [clientsDevice]).ieds
  dataTypeTemplates := some measurementTemplates
  communication := some {
    subNetworks := [{
      connectedAP := [{
        iedName := lit "Client1"
        apName := lit "AP1"
        address := some {
          addressParameters := [{ type := lit "IP", value := lit "10.0.0.7" }] } }] }] }

def clientsModel : ParsedModel literalRuntime :=
  ParsedModel.ofDocument literalRuntime 4 clientsDocument (by decide +kernel)

theorem generate_clientsModel :
    (generate literalRuntime clientsModel.model {}).isOk = true := by
  decide +kernel

theorem selectedDevices_clientsModel : (selectedDevices clientsModel.model {}).isOk = true := by
  decide +kernel

end Iec61850.Scl
