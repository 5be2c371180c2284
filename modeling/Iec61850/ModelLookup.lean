import Iec61850.SclModel

/-!
# Names and lookups

The accessors of the SCL structures: the name of a logical node, the children
of a data model node by name, the declaration of a type id, and the elements
of the communication section by name.
-/

namespace Iec61850.Scl

open Go

def LogicalNode.getName (ln : LogicalNode) : Str :=
  ln.nodePrefix ++ ln.lnClass ++ ln.inst

def SCL.getIedByName (scl : SCL) (iedName : Str) : Option IED :=
  scl.ieds.find? fun ied => ied.name = iedName

def IED.getAccessPointByName (ied : IED) (apName : Str) : Option AccessPoint :=
  ied.accessPoints.find? fun ap => ap.name = apName

def DataTypeTemplates.lookupType (templates : DataTypeTemplates) (id : Str) :
    Option SclType :=
  templates.typeDeclarations.find? fun declaration => declaration.getId = id

theorem lookupType_mem {templates : DataTypeTemplates} {id : Str} {t : SclType}
    (h : templates.lookupType id = some t) : t ∈ templates.typeDeclarations :=
  List.mem_of_find?_eq_some h

def EnumerationType.getOrdByEnumString (e : EnumerationType) (enumString : Str) :
    Option ℤ :=
  (e.enumValues.find? fun item => item.symbolicName = enumString).map (·.ord)

def EnumerationType.isValidOrdValue (e : EnumerationType) (ordValue : ℤ) : Bool :=
  e.enumValues.any fun item => item.ord = ordValue

/-! ## Children by name -/

/-- The values of the interface `DataModelNode` below a logical node. -/
inductive DataModelNode
  | dataObject (node : DataObject)
  | dataAttribute (node : DataAttribute)

def LogicalNode.getChildByName (ln : LogicalNode) (childName : Str) :
    Option DataObject :=
  ln.dataObjects.find? fun node => node.name = childName

def DataModelNode.getChildByName : DataModelNode → Str → Option DataModelNode
  | .dataObject node, childName =>
      match node.dataAttributes.find? fun child => child.name = childName with
      | some child => some (.dataAttribute child)
      | none =>
          (node.subDataObjects.find? fun child => child.name = childName).map
            .dataObject
  | .dataAttribute node, childName =>
      (node.subDataAttributes.find? fun child => child.name = childName).map
        .dataAttribute

/-! ## Communication -/

def Communication.getConnectedAP (communication : Communication) (apName : Str) :
    Option ConnectedAP :=
  (communication.subNetworks.flatMap (·.connectedAP)).find? fun connectedAP =>
    connectedAP.apName = apName

def ConnectedAP.lookupGSE (connectedAP : ConnectedAP) (logicalDeviceName name : Str) :
    Option GSE :=
  connectedAP.gesNodes.find? fun gse =>
    gse.ldInst = logicalDeviceName ∧ gse.cbName = name

def ConnectedAP.lookupSMV (connectedAP : ConnectedAP) (logicalDeviceName name : Str) :
    Option SMV :=
  connectedAP.smvNodes.find? fun smv =>
    smv.ldInst = logicalDeviceName ∧ smv.cbName = name

def Communication.getIpAddressByIedName (communication : Communication)
    (iedName apRef : Str) : Str :=
  let candidates := (communication.subNetworks.flatMap (·.connectedAP)).filter fun ap =>
    (apRef = [] ∨ ap.apName = apRef) ∧ ap.iedName ≠ [] ∧ ap.iedName = iedName
  let parameters := candidates.flatMap fun ap =>
    match ap.address with
    | some address => address.addressParameters
    | none => []
  match parameters.find? fun p => p.type = lit "IP" with
  | some p => p.value
  | none => []

/-! ## Integer forms of the option elements -/

def bit (flag : Bool) (weight : ℤ) : ℤ := if flag then weight else 0

def TriggerOptions.getIntValue (options : TriggerOptions) : ℤ :=
  bit options.dchg 1 + bit options.qchg 2 + bit options.dupd 4 +
    bit options.period 8 + bit options.gi 16

def SmvOpts.getIntValue (options : SmvOpts) : ℤ :=
  bit options.refreshTime 1 + bit options.sampleSynchronized 2 +
    bit options.sampleRate 4 + bit options.dataSet 8 + bit options.security 16

end Iec61850.Scl
