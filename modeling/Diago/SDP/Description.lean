import Diago.Lib.IPText

/-! # The lines of one stream's description

An SDP description is read as its `<type>=<value>` lines. The m=, c= and o=
lines and the direction attribute are parsed as the media stack parses them,
with every refusal it makes.
-/
namespace Diago.SDP
open Lib

abbrev space : UInt8 := 0x20
abbrev slash : UInt8 := 0x2F

inductive Err
  | notTypeValue (line : Bytes)
  | mediaFields (index : ℕ)
  | moreThanOneMedia
  | noConnection
  | connectionFields (value : Bytes)
  | notIP4 (value : Bytes)
  | notIP6 (value : Bytes)
  | noOrigin
  | originFields
  | originNumber (text : Bytes) (reason : NumError)
  deriving DecidableEq

structure Line where
  type : Bytes
  value : Bytes
  deriving DecidableEq

def values (lines : List Line) (key : Bytes) : List Bytes :=
  (lines.filter fun l => l.type = key).map Line.value

inductive Mode
  | sendrecv
  | sendonly
  | recvonly
  | inactive
  deriving DecidableEq, Repr

def Mode.text : Mode → Bytes
  | .sendrecv => lit "sendrecv"
  | .sendonly => lit "sendonly"
  | .recvonly => lit "recvonly"
  | .inactive => lit "inactive"

def modeOf (v : Bytes) : Option Mode :=
  if v = Mode.sendrecv.text then some .sendrecv
  else if v = Mode.sendonly.text then some .sendonly
  else if v = Mode.recvonly.text then some .recvonly
  else if v = Mode.inactive.text then some .inactive
  else none

/-- The last direction attribute, sendrecv without one. -/
def mediaDirection (lines : List Line) : Mode :=
  (values lines (lit "a")).foldl (fun mode v => (modeOf v).getD mode) .sendrecv

structure MediaDescription where
  mediaType : Bytes
  port : ℤ
  portNumbers : ℤ
  proto : Bytes
  formats : List Bytes
  deriving DecidableEq

def joinSpace (ws : List Bytes) : Bytes := List.intercalate [space] ws

def MediaDescription.ports (m : MediaDescription) : Bytes :=
  itoa m.port ++ (if m.portNumbers > 0 then slash :: itoa m.portNumbers else [])

def MediaDescription.value (m : MediaDescription) : Bytes :=
  joinSpace [m.mediaType, m.ports, m.proto, joinSpace m.formats]

/-- The words of the m= line are words: not empty, and without white space. -/
structure MediaDescription.Words (m : MediaDescription) : Prop where
  mediaType : m.mediaType ≠ [] ∧ NoSpace m.mediaType
  proto : m.proto ≠ [] ∧ NoSpace m.proto
  formats : m.formats ≠ []
  format : ∀ f ∈ m.formats, f ≠ [] ∧ NoSpace f

/-- The value of an m= line: a media type, a port, a protocol and at least one format. -/
def parseMediaLine (v : Bytes) : Option MediaDescription :=
  match fields v with
  | mediaType :: ports :: proto :: format :: formats =>
    let parts := ports.splitOn slash
    some
      { mediaType := mediaType
        port := (atoi (parts.headD [])).1
        portNumbers := if 1 < parts.length then (atoi (parts.getD 1 [])).1 else 0
        proto := proto
        formats := format :: formats }
  | _ => none

structure ConnectionInformation where
  networkType : Bytes
  addressType : Bytes
  ip : Option IP
  ttl : ℤ
  range : ℤ
  deriving DecidableEq

def to4 : Option IP → Option IP
  | some (.v4 a b c d) => some (.v4 a b c d)
  | _ => none

/-- The last c= line of a description with at most one m= line. -/
def connectionInformation (lines : List Line) : Except Err ConnectionInformation :=
  if 1 < (values lines (lit "m")).length then .error .moreThanOneMedia else
  match (values lines (lit "c")).getLast? with
  | none => .error .noConnection
  | some v =>
    match fields v with
    | networkType :: addressType :: address :: _ =>
      let addr := address.splitOn slash
      let ip := parseIP (addr.headD [])
      let ci : ConnectionInformation :=
        { networkType := networkType
          addressType := addressType
          ip := ip
          ttl := if 1 < addr.length then (atoi (addr.getD 1 [])).1 else 0
          range := if 2 < addr.length then (atoi (addr.getD 2 [])).1 else 0 }
      if addressType = lit "IP4" then
        if (to4 ip).isSome then .ok ci else .error (.notIP4 v)
      else if addressType = lit "IP6" then
        if ip.isSome then .ok ci else .error (.notIP6 v)
      else .ok ci
    | _ => .error (.connectionFields v)

structure SessionInformation where
  origin : Bytes
  sessionID : UInt64
  sessionVersion : UInt64
  networkType : Bytes
  addressType : Bytes
  address : Bytes
  deriving DecidableEq

def parseUint64 (s : Bytes) : Except Err UInt64 :=
  match parseUint 64 s with
  | .ok n => .ok (UInt64.ofNat n)
  | .error e => .error (.originNumber s e)

def sessionInformation (lines : List Line) : Except Err SessionInformation :=
  let v := (values lines (lit "o")).headD []
  if v = [] then .error .noOrigin else
  match fields v with
  | origin :: id :: version :: networkType :: addressType :: address :: _ => do
    let sessionID ← parseUint64 id
    let sessionVersion ← parseUint64 version
    return ⟨origin, sessionID, sessionVersion, networkType, addressType, address⟩
  | _ => .error .originFields

theorem values_append (xs ys : List Line) (key : Bytes) :
    values (xs ++ ys) key = values xs key ++ values ys key := by
  simp [values]

theorem values_cons (l : Line) (ls : List Line) (key : Bytes) :
    values (l :: ls) key = if l.type = key then l.value :: values ls key else values ls key := by
  unfold values
  split <;> simp_all

@[simp] theorem values_nil (key : Bytes) : values [] key = [] := rfl

theorem values_eq_nil {ls : List Line} {key : Bytes} (h : ∀ l ∈ ls, l.type ≠ key) :
    values ls key = [] := by
  simpa [values] using h

theorem noSpace_itoa (n : ℤ) : NoSpace (itoa n) := NoSpace.of_graphic (graphic_itoa n)

theorem slash_not_mem_itoa (n : ℤ) : slash ∉ itoa n := by
  have hnat (m : ℕ) : slash ∉ formatNat m := fun h =>
    @forall_mem_formatBase 10 (by norm_num) (· ≠ slash) (by decide) m slash h rfl
  unfold itoa
  split
  · simp only [List.mem_cons, not_or]
    exact ⟨by decide, hnat _⟩
  · exact hnat _

theorem parseMediaLine_value {m : MediaDescription} (hnumbers : m.portNumbers = 0)
    (hlo : -2 ^ 63 ≤ m.port) (hhi : m.port < 2 ^ 63) (h : m.Words) :
    parseMediaLine m.value = some m := by
  obtain ⟨mediaType, port, portNumbers, proto, formats⟩ := m
  obtain ⟨htype, hproto, hformats, hwords⟩ := h
  simp only at hnumbers hlo hhi hformats htype hproto hwords
  subst hnumbers
  obtain ⟨f, fs, rfl⟩ := List.exists_cons_of_ne_nil hformats
  have hline : MediaDescription.value ⟨mediaType, port, 0, proto, f :: fs⟩ =
      joinSpace (mediaType :: itoa port :: proto :: f :: fs) := by
    simp [MediaDescription.value, MediaDescription.ports, joinSpace, List.intercalate_cons_cons]
  have hfields : fields (joinSpace (mediaType :: itoa port :: proto :: f :: fs)) =
      mediaType :: itoa port :: proto :: f :: fs := by
    apply fields_intercalate
    simp only [List.forall_mem_cons] at hwords ⊢
    exact ⟨htype, ⟨itoa_ne_nil port, noSpace_itoa port⟩, hproto, hwords.1, hwords.2⟩
  have hsplit : (itoa port).splitOn slash = [itoa port] := by
    have hone : ∀ w ∈ [itoa port], slash ∉ w := by simpa using slash_not_mem_itoa port
    simpa using List.splitOn_intercalate slash hone (by simp)
  rw [hline, parseMediaLine, hfields]
  simp [hsplit, atoi_itoa hlo hhi]

/-- The words of a parsed m= line are non-empty and hold no white space. -/
theorem parseMediaLine_words {v : Bytes} {m : MediaDescription} (h : parseMediaLine v = some m) :
    m.Words := by
  unfold parseMediaLine at h
  split at h
  · rename_i mediaType ports proto format formats hf
    have hall (w : Bytes) (hw : w ∈ fields v) := mem_fields hw
    rw [hf] at hall
    simp only [List.forall_mem_cons] at hall
    obtain rfl := Option.some.inj h
    refine ⟨hall.1, hall.2.2.1, by simp, ?_⟩
    simp only [List.forall_mem_cons]
    exact hall.2.2.2
  · cases h

end Diago.SDP
