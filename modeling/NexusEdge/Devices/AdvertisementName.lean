import NexusEdge.Base.Base64
import NexusEdge.Devices.GatewayScanner

/-!
# Names of advertisements

Library `Devices`. `getGatewayId`, `getGatewayIp`, `getGroupKey`, `getAdvertisementName` and
`getGatewayDetails` of `utils.js:122–194,221–264`. A gateway advertises its id and address as one
encrypted text, which other gateways take apart at the first separator. The values that the module
keeps after they are read first do not change. The cipher `aes-256-ctr` adds a key stream to the
data; the key stream, decoding of UTF-8 and the library of addresses are those of the platform.
-/

namespace NexusEdge.Devices
open NexusEdge.Base

/-- An address of `os.networkInterfaces()`. -/
structure InterfaceAddress where
  family : String
  address : String
  mac : String

/-- `groupKey`. -/
structure GroupKey where
  key : String
  iv : String

/-- What a gateway reads of its files, environment, configuration and interfaces. -/
structure Host where
  /-- Contents of `/etc/gateway-id`, if it is readable. -/
  gatewayIdFile : Option String
  /-- `NEXUSEDGE_GATEWAY_ID`. -/
  envGatewayId : Option String
  /-- `NEXUSEDGE_BACKHAUL_INTERFACE`. -/
  envBackhaulInterface : Option String
  /-- `NEXUSEDGE_GROUP_KEY`. -/
  envGroupKey : Option String
  /-- `NEXUSEDGE_GROUP_IV`. -/
  envGroupIv : Option String
  /-- `network.interface` of `config.json`. -/
  configInterface : Option String
  /-- `groupKey` of `config.json`. -/
  configGroupKey : Option GroupKey
  networkInterfaces : JsObject (List InterfaceAddress)

/-- An environment variable that is set and not empty. -/
def isSet (value : Option String) : Option String := value.filter (· ≠ "")

namespace Host

/-- `getBackhaulInterface`, `utils.js:167–177`. -/
def getBackhaulInterface (host : Host) : Except String String :=
  match isSet host.envBackhaulInterface, host.configInterface with
  | some interfaceInConfig, _ => .ok interfaceInConfig
  | none, some interfaceInConfig => .ok interfaceInConfig
  | none, none => .error "network not defined in utils/config.json"

/-- The IPv4 address of the backhaul interface, or an exception. -/
def ipv4Address (host : Host) (noAddress notValid : String → String) :
    Except String InterfaceAddress := do
  let interfaceInConfig ← host.getBackhaulInterface
  match host.networkInterfaces.get? interfaceInConfig with
  | some sysInterface =>
    match sysInterface.find? fun elem ↦ elem.family = "IPv4" with
    | some sysInterface => return sysInterface
    | none => throw (noAddress interfaceInConfig)
  | none => throw (notValid interfaceInConfig)

/-- `getGatewayIp`, `utils.js:122–135`. -/
def getGatewayIp (host : Host) : Except String String := do
  let sysInterface ← host.ipv4Address
    (fun i ↦ "no IPv4 address found for " ++ i ++ " interface defined in utils/config.json")
    (fun i ↦ "interface " ++ i ++ " defined in utils/config.json is not valid")
  return sysInterface.address

/-- `getGatewayId`, `utils.js:143–165`. -/
def getGatewayId (host : Host) : Except String String :=
  match host.gatewayIdFile, isSet host.envGatewayId with
  | some contents, _ => .ok (trim contents)
  | none, some gatewayId => .ok gatewayId
  | none, none => do
    let sysInterface ← host.ipv4Address
      (fun i ↦ i ++ " interface defined in env var or utils/config.json is not an IPv4 interface")
      (fun i ↦ i ++ " interface defined in env var or utils/config.json is not valid")
    return removeAll ':' sysInterface.mac

/-- `getGroupKey`, `utils.js:179–194`. -/
def getGroupKey (host : Host) : Except String GroupKey :=
  match isSet host.envGroupKey, isSet host.envGroupIv, host.configGroupKey with
  | some key, some iv, _ => .ok ⟨key, iv⟩
  | _, _, some groupKey => .ok groupKey
  | _, _, none => .error "groupKey not defined in utils/config.json"

end Host

/-- Ciphers, decoders and addresses of the platform. -/
structure NameLibrary where
  /-- The key stream of `aes-256-ctr` for a key and an initialization vector. -/
  keyStream : String → String → Except String (Nat → UInt8)
  /-- `buffer.toString('utf8')`. -/
  utf8Decode : Buffer → String
  /-- `new Address4(ip).toHex()`. -/
  toHex : String → Except String String
  /-- `Address4.fromHex(hex).address`. -/
  fromHex : String → Except String String

/-- `Buffer.from(text, 'utf8')`. -/
def utf8Encode (text : String) : Buffer := text.toByteArray.data.toList

/-- The data with a key stream added to it. -/
def addStream (stream : Nat → UInt8) (data : Buffer) : Buffer :=
  data.mapIdx fun i byte ↦ byte ^^^ stream i

namespace NameLibrary

/-- `encryptAES`, `utils.js:252–257`. -/
def encryptAES (lib : NameLibrary) (text password iv : String) : Except String String := do
  let stream ← lib.keyStream password iv
  return Base64.encode (addStream stream (utf8Encode text))

/-- `decryptAES`, `utils.js:259–264`. -/
def decryptAES (lib : NameLibrary) (encrypted password iv : String) : Except String String := do
  let stream ← lib.keyStream password iv
  return lib.utf8Decode (addStream stream (Base64.decode encrypted))

/-- `getAdvertisementName`, `utils.js:221–231`. -/
def getAdvertisementName (lib : NameLibrary) (host : Host) : Except String String := do
  let groupKey ← host.getGroupKey
  let id ← host.getGatewayId
  let ip ← host.getGatewayIp
  let hex ← lib.toHex ip
  let ipHexStr := removeAll ':' hex
  lib.encryptAES (id ++ "*" ++ ipHexStr) groupKey.key groupKey.iv

/-- `getGatewayDetails`, `utils.js:238–248`. -/
def getGatewayDetails (lib : NameLibrary) (host : Host) (advertisementName : String) :
    Except String GatewayDetails := do
  let groupKey ← host.getGroupKey
  let decryptedStr ← lib.decryptAES advertisementName groupKey.key groupKey.iv
  match split '*' decryptedStr with
  | id :: hex :: _ => do
    let ip ← lib.fromHex hex
    return ⟨id, ip⟩
  | _ => throw "TypeError: Cannot read property 'replace' of undefined"

/-! ### Encryption -/

/-- Adding a key stream twice changes nothing. -/
theorem addStream_addStream (stream : Nat → UInt8) (data : Buffer) :
    addStream stream (addStream stream data) = data := by
  unfold addStream
  rw [List.mapIdx_mapIdx]
  have hself : ∀ i byte, (byte ^^^ stream i) ^^^ stream i = byte := by
    intro i byte
    rw [UInt8.xor_assoc, UInt8.xor_self, UInt8.xor_zero]
  apply List.ext_getElem
  · simp
  · intro i hi hj
    simp [hself]

/-- Bytes of a text. -/
theorem length_utf8Encode (text : String) : (utf8Encode text).length = text.utf8ByteSize := rfl

variable {lib : NameLibrary} {password iv : String} {stream : Nat → UInt8}

/-- With a key stream, encryption gives an encoded text of the same length. -/
theorem encryptAES_eq (h : lib.keyStream password iv = .ok stream) (text : String) :
    lib.encryptAES text password iv =
      .ok (Base64.encode (addStream stream (utf8Encode text))) := by
  rw [encryptAES, h]
  rfl

/-- Decryption undoes encryption if texts are decoded exactly. -/
theorem decryptAES_encode (h : lib.keyStream password iv = .ok stream)
    (hutf8 : ∀ text, lib.utf8Decode (utf8Encode text) = text) (text : String) :
    lib.decryptAES (Base64.encode (addStream stream (utf8Encode text))) password iv = .ok text := by
  rw [decryptAES, h, Base64.decode_encode]
  change Except.ok (lib.utf8Decode (addStream stream (addStream stream (utf8Encode text)))) = _
  rw [addStream_addStream, hutf8]

/-- The length of an encrypted text. -/
theorem utf8ByteSize_encode (stream : Nat → UInt8) (text : String) :
    (Base64.encode (addStream stream (utf8Encode text))).utf8ByteSize =
      4 * ((text.utf8ByteSize + 2) / 3) := by
  rw [Base64.utf8ByteSize_encode, addStream, List.length_mapIdx, length_utf8Encode]

/-! ### Names that can be taken apart -/

/-- Texts are decoded exactly, and the address of the gateway has eight hexadecimal digits, from
which it is restored. -/
structure Exact (lib : NameLibrary) (host : Host) : Prop where
  utf8 : ∀ text, lib.utf8Decode (utf8Encode text) = text
  address : ∀ ip, host.getGatewayIp = .ok ip → ∃ hex, lib.toHex ip = .ok hex ∧
    (removeAll ':' hex).toList.length = 8 ∧
    (∀ c ∈ (removeAll ':' hex).toList, isHexDigit c = true) ∧
    lib.fromHex (removeAll ':' hex) = .ok ip

/-- The gateway has an address and a key with which its cipher works. -/
def CanAdvertise (lib : NameLibrary) (host : Host) : Prop :=
  (∃ ip, host.getGatewayIp = .ok ip) ∧
    ∃ groupKey, host.getGroupKey = .ok groupKey ∧ Returns (lib.keyStream groupKey.key groupKey.iv)

/-- A name fits into an advertisement, and from it a gateway with the same key gets the id and the
address. -/
def Recoverable (lib : NameLibrary) (sender receiver : Host) : Prop :=
  ∀ name, lib.getAdvertisementName sender = .ok name → name.utf8ByteSize ≤ 31 ∧
    ∃ id ip, sender.getGatewayId = .ok id ∧ sender.getGatewayIp = .ok ip ∧
      lib.getGatewayDetails receiver name = .ok ⟨id, ip⟩

/-- The text that is encrypted. -/
def nameText (id ipHexStr : String) : String := id ++ "*" ++ ipHexStr

variable {sender receiver : Host}

/-- The name of a gateway that has an id, an address and a key. -/
theorem getAdvertisementName_eq {groupKey : GroupKey} {id ip hex : String}
    (hkey : sender.getGroupKey = .ok groupKey) (hid : sender.getGatewayId = .ok id)
    (hip : sender.getGatewayIp = .ok ip) (hhex : lib.toHex ip = .ok hex)
    (hstream : lib.keyStream groupKey.key groupKey.iv = .ok stream) :
    lib.getAdvertisementName sender =
      .ok (Base64.encode (addStream stream (utf8Encode (nameText id (removeAll ':' hex))))) := by
  rw [getAdvertisementName, hkey, hid, hip]
  change (lib.toHex ip >>= fun hex ↦ lib.encryptAES (nameText id (removeAll ':' hex))
    groupKey.key groupKey.iv) = _
  rw [hhex]
  exact encryptAES_eq hstream _

/-- Without one of them there is no name. -/
theorem parts_of_getAdvertisementName {name : String}
    (h : lib.getAdvertisementName sender = .ok name) : ∃ groupKey id ip hex stream,
      sender.getGroupKey = .ok groupKey ∧ sender.getGatewayId = .ok id ∧
        sender.getGatewayIp = .ok ip ∧ lib.toHex ip = .ok hex ∧
        lib.keyStream groupKey.key groupKey.iv = .ok stream := by
  simp only [getAdvertisementName, encryptAES, bind_eq_ok_iff] at h
  obtain ⟨groupKey, hkey, id, hid, ip, hip, hex, hhex, stream, hstream, _⟩ := h
  exact ⟨groupKey, id, ip, hex, stream, hkey, hid, hip, hhex, hstream⟩

/-- The details in a name are the parts around the first separator. -/
theorem getGatewayDetails_encode {groupKey : GroupKey} (hkey : receiver.getGroupKey = .ok groupKey)
    (hstream : lib.keyStream groupKey.key groupKey.iv = .ok stream)
    (hutf8 : ∀ text, lib.utf8Decode (utf8Encode text) = text) (text : String)
    (details : GatewayDetails) :
    lib.getGatewayDetails receiver (Base64.encode (addStream stream (utf8Encode text))) =
        .ok details ↔
      ∃ hex rest, split '*' text = details.id :: hex :: rest ∧ lib.fromHex hex = .ok details.ip := by
  rw [getGatewayDetails, hkey]
  change (lib.decryptAES _ groupKey.key groupKey.iv >>= _) = _ ↔ _
  rw [decryptAES_encode hstream hutf8, bind_eq_ok_iff]
  simp only [Except.ok.injEq, exists_eq_left']
  split
  · next id hex rest hsplit =>
    rw [bind_eq_ok_iff, hsplit]
    constructor
    · rintro ⟨ip, hip, hdetails⟩
      obtain rfl := Except.ok.inj hdetails
      exact ⟨hex, rest, rfl, hip⟩
    · rintro ⟨hex', rest', heq, hip⟩
      simp only [List.cons.injEq] at heq
      obtain ⟨rfl, rfl, rfl⟩ := heq
      exact ⟨details.ip, hip, rfl⟩
  · next hother =>
    refine iff_of_false nofun ?_
    rintro ⟨hex, rest, heq, _⟩
    exact hother _ _ _ heq

/-- An id that can be told from the address behind it, in a name of at most 31 bytes. -/
def FitsName (id : String) : Prop := '*' ∉ id.toList ∧ id.utf8ByteSize ≤ 12

/-- The text of eight digits behind an id. -/
theorem utf8ByteSize_nameText (id : String) {ipHexStr : String} (hlength : ipHexStr.toList.length = 8)
    (hdigits : ∀ c ∈ ipHexStr.toList, isHexDigit c = true) :
    (nameText id ipHexStr).utf8ByteSize = id.utf8ByteSize + 9 := by
  have hhex : ipHexStr.utf8ByteSize = 8 := by
    rw [utf8ByteSize_of_utf8Size fun c hc ↦ utf8Size_of_isHexDigit (hdigits c hc), hlength]
  have hstar : "*".utf8ByteSize = 1 := rfl
  rw [nameText, String.utf8ByteSize_append, String.utf8ByteSize_append, hhex, hstar]

/-- Its first part is the id exactly if the id has no separator. -/
theorem split_nameText (id : String) {ipHexStr : String}
    (hdigits : ∀ c ∈ ipHexStr.toList, isHexDigit c = true) (hex : String) (rest : List String) :
    split '*' (nameText id ipHexStr) = id :: hex :: rest ↔
      '*' ∉ id.toList ∧ hex = ipHexStr ∧ rest = [] := by
  constructor
  · intro h
    have hid : '*' ∉ id.toList := not_mem_of_mem_split (h ▸ List.mem_cons_self)
    have hstar : '*' ∉ ipHexStr.toList := fun hmem ↦ absurd (hdigits _ hmem) (by decide)
    have hsplit := split_append hid ipHexStr
    rw [split_of_not_mem hstar] at hsplit
    have heq := h.symm.trans hsplit
    simp only [List.cons.injEq, true_and] at heq
    exact ⟨hid, heq⟩
  · rintro ⟨hid, rfl, rfl⟩
    have hstar : '*' ∉ hex.toList := fun hmem ↦ absurd (hdigits _ hmem) (by decide)
    have hsplit := split_append hid hex
    rw [split_of_not_mem hstar] at hsplit
    exact hsplit

/-- The name of a gateway is short enough and gives back its id and address exactly if its id has
no separator and at most twelve bytes. -/
theorem recoverable_iff (lib : NameLibrary) (sender receiver : Host)
    (hkey : receiver.getGroupKey = sender.getGroupKey) (hexact : lib.Exact sender) :
    lib.Recoverable sender receiver ↔
      (lib.CanAdvertise sender → ∀ id, sender.getGatewayId = .ok id → FitsName id) := by
  constructor
  · rintro h ⟨⟨ip, hip⟩, groupKey, hgroup, stream, hstream⟩ id hid
    obtain ⟨hex, hhex, hlength, hdigits, _⟩ := hexact.address ip hip
    obtain ⟨hshort, id', ip', hid', _, hdetails⟩ :=
      h _ (getAdvertisementName_eq hgroup hid hip hhex hstream)
    obtain rfl := Except.ok.inj (hid.symm.trans hid')
    rw [getGatewayDetails_encode (hkey.trans hgroup) hstream hexact.utf8] at hdetails
    obtain ⟨hex', rest, hsplit, _⟩ := hdetails
    rw [utf8ByteSize_encode, utf8ByteSize_nameText id hlength hdigits] at hshort
    refine ⟨((split_nameText id hdigits _ _).mp hsplit).1, ?_⟩
    omega
  · intro h name hname
    obtain ⟨groupKey, id, ip, hex, stream, hgroup, hid, hip, hhex, hstream⟩ :=
      parts_of_getAdvertisementName hname
    obtain ⟨hex', hhex', hlength, hdigits, haddress⟩ := hexact.address ip hip
    obtain rfl := Except.ok.inj (hhex.symm.trans hhex')
    obtain ⟨hstar, hsize⟩ := h ⟨⟨ip, hip⟩, groupKey, hgroup, stream, hstream⟩ id hid
    rw [getAdvertisementName_eq hgroup hid hip hhex hstream] at hname
    obtain rfl := Except.ok.inj hname
    constructor
    · rw [utf8ByteSize_encode, utf8ByteSize_nameText id hlength hdigits]
      omega
    · refine ⟨id, ip, hid, hip, ?_⟩
      rw [getGatewayDetails_encode (hkey.trans hgroup) hstream hexact.utf8]
      exact ⟨_, [], (split_nameText id hdigits _ _).mpr ⟨hstar, rfl, rfl⟩, haddress⟩

/-! ### A long id -/

/-- The beginning of a key stream of AES. -/
def keyStreamBytes : Buffer :=
  [248, 60, 154, 96, 220, 12, 219, 152, 33, 159, 121, 214, 213, 219, 22, 53,
    181, 159, 104, 125, 79, 98, 34, 103, 124, 40, 12, 74, 197, 28, 78, 157]

/-- A library that knows one key and one address. -/
def sampleLibrary : NameLibrary where
  keyStream key iv :=
    if key = "0123456789abcdef0123456789abcdef" ∧ iv = "0123456789abcdef" then
      .ok fun i ↦ keyStreamBytes.getD i 0
    else .error "Invalid key length"
  utf8Decode buffer := (String.fromUTF8? ⟨buffer.toArray⟩).getD "\uFFFD"
  toHex ip := if ip = "192.168.0.1" then .ok "c0:a8:00:01" else .error "Invalid IPv4 address."
  fromHex hex := if hex = "c0a80001" then .ok "192.168.0.1" else .error "Invalid IPv4 address."

/-- A gateway with an id of fifteen characters. -/
def floorGateway : Host where
  gatewayIdFile := none
  envGatewayId := some "gateway-floor-2"
  envBackhaulInterface := some "eth0"
  envGroupKey := some "0123456789abcdef0123456789abcdef"
  envGroupIv := some "0123456789abcdef"
  configInterface := none
  configGroupKey := none
  networkInterfaces := JsObject.empty.set "eth0" [⟨"IPv4", "192.168.0.1", "02:42:ac:11:00:02"⟩]

/-- The library is exact for the gateway. -/
theorem sampleLibrary_exact : sampleLibrary.Exact floorGateway := by
  constructor
  · intro text
    have hvalid : text.toByteArray.IsValidUTF8 := text.isValidUTF8
    change (String.fromUTF8? text.toByteArray).getD "\uFFFD" = text
    rw [String.fromUTF8?, dif_pos hvalid]
    rfl
  · intro ip hip
    obtain rfl := Except.ok.inj hip
    have hdigits : (removeAll ':' "c0:a8:00:01").toList.all isHexDigit = true := rfl
    exact ⟨"c0:a8:00:01", rfl, rfl, List.all_eq_true.mp hdigits, rfl⟩

/-- The equivalence for this gateway. -/
theorem recoverable_floorGateway : sampleLibrary.Recoverable floorGateway floorGateway ↔
    (sampleLibrary.CanAdvertise floorGateway →
      ∀ id, floorGateway.getGatewayId = .ok id → FitsName id) :=
  recoverable_iff sampleLibrary floorGateway floorGateway rfl sampleLibrary_exact

/-- Its name is too long. -/
theorem name_too_long : ¬ ∀ (lib : NameLibrary) (sender receiver : Host),
    receiver.getGroupKey = sender.getGroupKey → lib.Exact sender →
      lib.Recoverable sender receiver := by
  intro h
  have hname : sampleLibrary.getAdvertisementName floorGateway = _ :=
    getAdvertisementName_eq rfl rfl rfl rfl rfl
  have hshort := (h sampleLibrary floorGateway floorGateway rfl sampleLibrary_exact _ hname).1
  rw [utf8ByteSize_encode] at hshort
  have hsize : (nameText "gateway-floor-2" (removeAll ':' "c0:a8:00:01")).utf8ByteSize = 24 := rfl
  rw [hsize] at hshort
  omega

end NameLibrary
end NexusEdge.Devices
