import TitleDock.Proofs.Text.Decimal
import TitleDock.Proofs.Text.Pieces
import TitleDock.Proofs.Text.Utf8
import TitleDock.Remote.Http

/-! Addresses of the web, as a reader of their text takes them apart, and the ones that requests go
to. No text of a device adds a query, a fragment or a slash. A part of the path stands for the bytes
of the text that it was written for, as long as the text has no tabs or line ends and is not made of
one or two points: those do not survive. -/

namespace TitleDock

/-! ### Reading addresses -/

/-- What the text of an address of the web says. -/
structure Url where
  host : List Char
  port : Nat
  /-- The parts of the path, each behind its slash. -/
  path : List (List Char)
  query : Option (List Char)
  fragment : Option (List Char)
deriving DecidableEq, Repr

namespace Url

def port? : List Char → Option Nat
  | [] => some 80
  | ':' :: ds => Decimal.natural? 10 ds
  | _ => none

def authority? : List Char → Option (List Char × Nat)
  | '[' :: cs =>
    match cs.dropWhile (· ≠ ']') with
    | ']' :: r => (port? r).map ('[' :: cs.takeWhile (· ≠ ']') ++ [']'], ·)
    | _ => none
  | cs => (port? (cs.dropWhile (· ≠ ':'))).map (cs.takeWhile (· ≠ ':'), ·)

theorem authority?_of_head {cs : List Char} (h : cs.head? ≠ some '[') :
    authority? cs = (port? (cs.dropWhile (· ≠ ':'))).map (cs.takeWhile (· ≠ ':'), ·) := by
  unfold authority?
  split
  · simp at h
  · rfl

def isOfAuthority (c : Char) : Bool := c ≠ '/' && c ≠ '?' && c ≠ '#'
def isOfPath (c : Char) : Bool := c ≠ '?' && c ≠ '#'

def ending (cs : List Char) : Option (List Char) × Option (List Char) :=
  (match cs with
    | '?' :: r => some (r.takeWhile (· ≠ '#'))
    | _ => none,
  match cs.dropWhile (· ≠ '#') with
    | '#' :: r => some r
    | _ => none)

def ofText? : List Char → Option Url
  | 'h' :: 't' :: 't' :: 'p' :: ':' :: '/' :: '/' :: cs => do
    let (host, port) ← authority? (cs.takeWhile isOfAuthority)
    let r := cs.dropWhile isOfAuthority
    let (query, fragment) := ending (r.dropWhile isOfPath)
    some { host, port, path := (Text.splitOn '/' (r.takeWhile isOfPath)).tail, query, fragment }
  | _ => none

/-- The bytes that a part of a path stands for: two digits behind a percent sign are one byte. -/
def partBytes : List Char → Bytes
  | [] => []
  | '%' :: a :: b :: r =>
    match Decimal.digit? 16 a, Decimal.digit? 16 b with
    | some x, some y => (x * 16 + y).toUInt8 :: partBytes r
    | _, _ => 0x25 :: partBytes (a :: b :: r)
  | c :: r => Utf8.encodeChar c ++ partBytes r

end Url

namespace Endpoint

/-! ### Parts of paths -/

def IsClean (cs : List Char) : Prop := ∀ c ∈ cs, c ≠ '/' ∧ c ≠ '?' ∧ c ≠ '#'

instance (cs : List Char) : Decidable (IsClean cs) := List.decidableBAll _ cs

section Parts

theorem upperDigit_cases {n : Nat} (small : n < 16) :
    Decimal.digit? 16 (upperDigit n) = some n ∧
      (upperDigit n ≠ '/' ∧ upperDigit n ≠ '?' ∧ upperDigit n ≠ '#') := by
  have digits (k : Fin 16) : Decimal.digit? 16 (upperDigit k) = some k.val ∧
      (upperDigit k ≠ '/' ∧ upperDigit k ≠ '?' ∧ upperDigit k ≠ '#') := by
    revert k
    decide
  exact digits ⟨n, small⟩

theorem isPlain_cases {b : UInt8} (plain : isPlain b = true) :
    b.toNat < 0x80 ∧ (Char.ofNat b.toNat).toNat = b.toNat ∧
      ∀ c ∈ ['/', '?', '#', '%'], Char.ofNat b.toNat ≠ c := by
  have each (k : Fin 0x100) : isPlain k.val.toUInt8 = true →
      k.val < 0x80 ∧ (Char.ofNat k).toNat = k.val ∧
        ['/', '?', '#', '%'].all (Char.ofNat k ≠ ·) = true := by
    revert k
    decide +kernel
  obtain ⟨ascii, same, other⟩ := each ⟨b.toNat, b.toNat_lt⟩ (by simpa using plain)
  exact ⟨ascii, same, fun c member => by simpa using List.all_eq_true.1 other c member⟩

theorem isClean_encode (cs : List Char) : IsClean (encode cs).toList := by
  intro c member
  rw [encode, String.toList_ofList] at member
  obtain ⟨b, -, written⟩ := List.mem_flatMap.1 member
  rw [encodeByte] at written
  split at written
  case isTrue plain =>
    obtain rfl := List.mem_singleton.1 written
    have other := (isPlain_cases plain).2.2
    exact ⟨other _ (by simp), other _ (by simp), other _ (by simp)⟩
  case isFalse =>
    have bound : b.toNat < 256 := b.toNat_lt
    simp only [List.mem_cons, List.not_mem_nil, or_false] at written
    rcases written with rfl | rfl | rfl
    · decide
    · exact (upperDigit_cases (by omega)).2
    · exact (upperDigit_cases (by omega)).2

theorem partBytes_encodeByte (b : UInt8) (r : List Char) :
    Url.partBytes (encodeByte b ++ r) = b :: Url.partBytes r := by
  have bound : b.toNat < 256 := b.toNat_lt
  rw [encodeByte]
  split
  case isTrue plain =>
    obtain ⟨small, value, other⟩ := isPlain_cases plain
    have single : Utf8.encodeChar (Char.ofNat b.toNat) = [b] := by
      simp [Utf8.encodeChar, value, small]
    have percent : Char.ofNat b.toNat ≠ '%' := other _ (by simp)
    rw [List.singleton_append, Url.partBytes.eq_def]
    split
    case h_1 none => cases none
    case h_2 a b' r' same => exact absurd (List.cons.inj same).1 percent
    case h_3 c r' _ same =>
      obtain ⟨rfl, rfl⟩ := List.cons.inj same
      rw [single, List.singleton_append]
  case isFalse =>
    have high := (upperDigit_cases (n := b.toNat / 16) (by omega)).1
    have low := (upperDigit_cases (n := b.toNat % 16) (by omega)).1
    have value : (b.toNat / 16 * 16 + b.toNat % 16).toUInt8 = b := by
      rw [Nat.div_add_mod']
      simp
    simp [Url.partBytes, high, low, value]

theorem partBytes_encode (cs : List Char) : Url.partBytes (encode cs).toList = Utf8.encode cs := by
  have each (bs : Bytes) : Url.partBytes (bs.flatMap encodeByte) = bs := by
    induction bs with
    | nil => rfl
    | cons b bs ih => rw [List.flatMap_cons, partBytes_encodeByte, ih]
  rw [encode, String.toList_ofList, each]

theorem isClean_push {parts : List String} (clean : ∀ p ∈ parts, IsClean p.toList) (part : String) :
    ∀ p ∈ push parts part, IsClean p.toList := by
  have added (parts' : List String) (sub : parts' ⊆ parts) {last : String} (h : IsClean last.toList) :
      ∀ p ∈ parts' ++ [last], IsClean p.toList := by
    intro p member
    obtain early | rfl := List.mem_append.1 member |>.imp_right List.mem_singleton.1
    · exact clean p (sub early)
    · exact h
  have empty : IsClean "".toList := by simp [IsClean]
  rw [push]
  split
  · exact clean
  · dsimp only
    split
    · exact added parts (List.Subset.refl _) empty
    · split
      · exact added parts.dropLast (List.dropLast_subset _) empty
      · exact added parts (List.Subset.refl _) (isClean_encode _)

theorem push_ne_nil {parts : List String} (proper : parts ≠ []) (part : String) :
    push parts part ≠ [] := by
  rw [push]
  split
  · exact proper
  · dsimp only
    split_ifs <;> simp

end Parts

/-! ### Addresses of requests -/

section Addresses

variable {a : SocketAddress} {e : Endpoint}

def portText (port : UInt16) : List Char :=
  if port = 80 then [] else ':' :: Decimal.digits port.toNat

theorem port?_portText (port : UInt16) : Url.port? (portText port) = some port.toNat := by
  rw [portText]
  split
  case isTrue usual => rw [usual]; rfl
  case isFalse => exact Decimal.natural?_digits _

theorem mem_digits {n : Nat} {c : Char} (h : c ∈ Decimal.digits n) :
    ∃ k : Fin 16, c = k.val.digitChar := by
  obtain ⟨d, small, rfl⟩ := Decimal.exists_digitChar_of_mem (by decide) h
  exact ⟨⟨d, by omega⟩, rfl⟩

theorem mem_portText {port : UInt16} {c : Char} (h : c ∈ portText port) :
    c = ':' ∨ ∃ k : Fin 16, c = k.val.digitChar := by
  rw [portText] at h
  split at h
  · cases h
  · exact (List.mem_cons.1 h).imp_right mem_digits

theorem mem_text_v4 {ip : Ipv4} {c : Char} (h : c ∈ ip.text) :
    c = '.' ∨ ∃ k : Fin 16, c = k.val.digitChar := by
  simp only [Ipv4.text, List.mem_append, List.mem_cons] at h
  rcases h with ((h | rfl | h) | rfl | h) | rfl | h
  all_goals first | exact .inl rfl | exact .inr (mem_digits h)

theorem mem_joinGroups {gs : List UInt16} {c : Char} (h : c ∈ Ipv6.joinGroups gs) :
    c = ':' ∨ ∃ k : Fin 16, c = k.val.digitChar := by
  have digit {n : Nat} (h : c ∈ Decimal.hexDigits n) : ∃ k : Fin 16, c = k.val.digitChar := by
    obtain ⟨d, small, rfl⟩ := Decimal.exists_digitChar_of_mem (by decide) h
    exact ⟨⟨d, small⟩, rfl⟩
  induction gs with
  | nil => cases h
  | cons g gs ih =>
    cases gs with
    | nil => exact .inr (digit h)
    | cons g' gs =>
      rw [Ipv6.joinGroups] at h
      · obtain here | later := List.mem_append.1 h
        · exact .inr (digit here)
        · exact (List.mem_cons.1 later).elim .inl ih
      · simp

theorem mem_groupText {ip : Ipv6} {c : Char} (h : c ∈ ip.groupText) :
    c = ':' ∨ ∃ k : Fin 16, c = k.val.digitChar := by
  simp only [Ipv6.groupText] at h
  split at h
  · exact mem_joinGroups h
  · simp only [List.mem_append, List.mem_cons] at h
    rcases h with (h | rfl | rfl | h)
    all_goals first | exact .inl rfl | exact mem_joinGroups h

theorem digitChar_ne (k : Fin 16) :
    ∀ c ∈ ['/', '?', '#', ':', '[', ']'], k.val.digitChar ≠ c := by
  have each (k : Fin 16) :
      ['/', '?', '#', ':', '[', ']'].all (k.val.digitChar ≠ ·) = true := by
    revert k
    decide
  exact fun c member => by simpa using List.all_eq_true.1 (each k) c member

theorem head?_portText (port : UInt16) : ∀ c ∈ (portText port).head?, c = ':' := by
  rw [portText]
  split <;> simp

theorem authority?_host (a : SocketAddress) (port : UInt16) :
    Url.authority? ((host a).toList ++ portText port) = some ((host a).toList, port.toNat) := by
  cases a with
  | v4 ip _ =>
    have inner : ∀ c ∈ ip.text, c ≠ ':' ∧ c ≠ '[' := by
      intro c member
      obtain rfl | ⟨k, rfl⟩ := mem_text_v4 member
      · decide
      · exact ⟨digitChar_ne k _ (by simp), digitChar_ne k _ (by simp)⟩
    have head : (ip.text ++ portText port).head? ≠ some '[' := by
      intro first
      rw [List.head?_append] at first
      cases text : ip.text.head? with
      | none =>
        rw [text, Option.none_or] at first
        cases head?_portText port _ first
      | some c =>
        rw [text, Option.some_or, Option.some.injEq] at first
        exact (inner c (List.mem_of_mem_head? text)).2 first
    obtain ⟨taken, left⟩ := Text.span_append (p := (· ≠ ':')) (l := ip.text) (r := portText port)
      (fun c member => by simpa using (inner c member).1)
      (fun c first => by simp [head?_portText port c first])
    rw [host, String.toList_ofList, Url.authority?_of_head head, taken, left, port?_portText]
    rfl
  | v6 ip own scope =>
    obtain ⟨taken, left⟩ := Text.span_append (p := (· ≠ ']')) (l := ip.groupText)
      (r := ']' :: portText port)
      (fun c member => by
        obtain rfl | ⟨k, rfl⟩ := mem_groupText member
        · decide
        · simp [digitChar_ne k ']' (by simp)]) (by simp)
    have text : (host (.v6 ip own scope)).toList = '[' :: (ip.groupText ++ [']']) := by
      simp [host, String.toList_append]
    have text' : (host (.v6 ip own scope)).toList ++ portText port =
        '[' :: (ip.groupText ++ ']' :: portText port) := by simp [text]
    rw [text', Url.authority?, taken, left, text]
    simp [port?_portText]

theorem toList_path (proper : e.parts ≠ []) :
    e.path.toList = e.parts.flatMap fun p => '/' :: p.toList := by
  have joined (p : List Char) (ps : List (List Char)) :
      '/' :: ['/'].intercalate (p :: ps) = (p :: ps).flatMap ('/' :: ·) := by
    induction ps generalizing p with
    | nil => simp [List.intercalate]
    | cons q ps ih =>
      have next := ih q
      simp only [List.intercalate, List.intersperse, List.flatten_cons, List.flatMap_cons] at next ⊢
      simp [next]
  cases parts : e.parts with
  | nil => exact absurd parts proper
  | cons p ps =>
    have text := joined p.toList (ps.map String.toList)
    rw [← List.map_cons, List.flatMap_map] at text
    rw [path, parts, String.toList_append, String.toList_intercalate, ← text]
    rfl

theorem toList_url (proper : e.parts ≠ []) :
    e.url.toList = 'h' :: 't' :: 't' :: 'p' :: ':' :: '/' :: '/' ::
      (((host e.address).toList ++ portText e.address.port) ++
        e.parts.flatMap fun p => '/' :: p.toList) := by
  have port : (if e.address.port = 80 then "" else ":" ++ toString e.address.port.toNat).toList =
      portText e.address.port := by
    rw [portText]
    split
    · rfl
    · simp [String.toList_append, Decimal.digits]
  rw [url, String.toList_append, String.toList_append, String.toList_append, port, toList_path proper]
  rfl

theorem isOfAuthority_of_mem {c : Char}
    (h : c ∈ (host a).toList ++ portText a.port) : Url.isOfAuthority c = true := by
  have known (d : Char) (given : d ∈ ['.', ':', '[', ']'] ∨ ∃ k : Fin 16, d = k.val.digitChar) :
      Url.isOfAuthority d = true := by
    obtain member | ⟨k, rfl⟩ := given
    · have marks : ['.', ':', '[', ']'].all Url.isOfAuthority = true := by decide
      exact List.all_eq_true.1 marks d member
    · have other := digitChar_ne k
      simp [Url.isOfAuthority, other _ (show '/' ∈ _ by simp), other _ (show '?' ∈ _ by simp),
        other _ (show '#' ∈ _ by simp)]
  refine known c ?_
  obtain named | numbered := List.mem_append.1 h
  · cases a with
    | v4 ip port =>
      rw [host, String.toList_ofList] at named
      exact (mem_text_v4 named).imp_left fun same => by simp [same]
    | v6 ip port scope =>
      simp only [host, String.toList_append, String.toList_ofList, List.mem_append] at named
      rcases named with (first | inner) | last
      · exact .inl (by simp [show c = '[' by simpa using first])
      · exact (mem_groupText inner).imp_left fun same => by simp [same]
      · exact .inl (by simp [show c = ']' by simpa using last])
  · exact (mem_portText numbered).imp_left fun same => by simp [same]

theorem ofText?_url (proper : e.parts ≠ []) (clean : ∀ p ∈ e.parts, IsClean p.toList) :
    Url.ofText? e.url.toList = some
      { host := (host e.address).toList, port := e.address.port.toNat
        path := e.parts.map String.toList, query := none, fragment := none } := by
  have marked : ∀ c ∈ (e.parts.flatMap fun p => '/' :: p.toList).head?,
      Url.isOfAuthority c = false := by
    cases parts : e.parts with
    | nil => exact absurd parts proper
    | cons p ps => simp [Url.isOfAuthority]
  obtain ⟨authority, rest⟩ := Text.span_append (p := Url.isOfAuthority)
    (fun c member => isOfAuthority_of_mem (a := e.address) member) marked
  have inner : ∀ c ∈ e.parts.flatMap fun p => '/' :: p.toList, Url.isOfPath c = true := by
    intro c member
    obtain ⟨p, member', here⟩ := List.mem_flatMap.1 member
    obtain rfl | here := List.mem_cons.1 here
    · rfl
    · simp [Url.isOfPath, clean p member' c here]
  obtain ⟨taken, left⟩ := Text.span_append (r := []) inner (by simp)
  rw [List.append_nil] at taken left
  have parts : Text.splitOn '/' (e.parts.flatMap fun p => '/' :: p.toList) =
      [] :: e.parts.map String.toList := by
    have whole : ∀ piece ∈ e.parts.map String.toList, '/' ∉ piece := by
      intro piece member slash
      obtain ⟨p, member', rfl⟩ := List.mem_map.1 member
      exact (clean p member' _ slash).1 rfl
    have split := Text.splitOn_flatMap whole
    rwa [List.flatMap_map] at split
  rw [toList_url proper, Url.ofText?, authority, rest, authority?_host]
  simp only [Option.bind_eq_bind, Option.bind_some, taken, left, parts]
  rfl

end Addresses

/-! ### Ids in paths -/

/-- An id that comes through: not one or two points alone, and nothing in it that is left out. -/
def IsFaithful (id : String) : Prop := id ≠ "." ∧ id ≠ ".." ∧ ∀ c ∈ id.toList, isSkipped c = false

instance (id : String) : Decidable (IsFaithful id) :=
  have : Decidable (∀ c ∈ id.toList, isSkipped c = false) := List.decidableBAll _ _
  inferInstanceAs (Decidable (_ ∧ _ ∧ _))

section Ids

variable {parts : List String} {id : String}

theorem push_of_isFaithful (h : IsFaithful id) : push parts id = parts ++ [encode id.toList] := by
  obtain ⟨one, two, inner⟩ := h
  have kept : (id.toList.filter fun c => !isSkipped c) = id.toList :=
    List.filter_eq_self.2 fun c member => by simp [inner c member]
  have single : id.toList ≠ ['.'] := fun same => one (String.toList_inj.1 same)
  have double : id.toList ≠ ['.', '.'] := fun same => two (String.toList_inj.1 same)
  rw [push, if_neg (by simp [one, two])]
  simp only [kept, if_neg single, if_neg double]

theorem partBytes_of_not_isFaithful (h : ¬ IsFaithful id) {last : String}
    (added : push parts id = parts ++ [last]) : Url.partBytes last.toList ≠ Bytes.ofString id := by
  intro reads
  rw [push] at added
  split at added
  case isTrue => simp at added
  case isFalse points =>
    rw [not_or] at points
    have skips : ∃ c ∈ id.toList, isSkipped c = true := by
      by_contra none
      exact h ⟨points.1, points.2, by simpa using none⟩
    have full : id.toList ≠ [] := fun none => by simp [none] at skips
    have empty (parts' : List String) (added : parts' ++ [""] = parts ++ [last]) : False := by
      obtain ⟨-, same⟩ := List.append_inj' added rfl
      obtain rfl : "" = last := List.singleton_inj.1 same
      exact full (Utf8.encode_injective reads.symm)
    dsimp only at added
    split at added
    case isTrue => exact empty _ added
    case isFalse =>
      split at added
      case isTrue => exact empty _ added
      case isFalse =>
        obtain rfl := List.singleton_inj.1 (List.append_cancel_left added)
        rw [partBytes_encode] at reads
        obtain ⟨c, member, skipped⟩ := skips
        have all := List.filter_eq_self.1 (Utf8.encode_injective reads) c member
        simp [skipped] at all

theorem exists_push_iff (parts : List String) (id : String) :
    (∃ last, push parts id = parts ++ [last] ∧ Url.partBytes last.toList = Bytes.ofString id) ↔
      IsFaithful id := by
  constructor
  · rintro ⟨last, added, reads⟩
    by_contra other
    exact partBytes_of_not_isFaithful other added reads
  · intro h
    exact ⟨_, push_of_isFaithful h, partBytes_encode _⟩

end Ids

end Endpoint

def SocketAddress.scope : SocketAddress → UInt32
  | .v4 .. => 0
  | .v6 _ _ scope => scope

theorem Endpoint.below_of_scope {a : SocketAddress} (h : a.scope = 0) (parts : List String) :
    below a parts = .ok { address := a, parts := parts.foldl push ["api"] } := by
  cases a with
  | v4 => rfl
  | v6 => exact if_pos h

namespace Call

/-- The word for a call about an operation, and the operation's id. -/
def operation? : Call → Option (String × String)
  | .status _ id => some ("status", id)
  | .download _ id => some ("download", id)
  | _ => none

section Operation

variable {c : Call} {verb id : String}

theorem parts_of_operation (h : c.operation? = some (verb, id)) :
    c.parts.foldl Endpoint.push ["api"] = Endpoint.push ["api", verb] id := by
  cases c <;> simp only [operation?, Option.some.injEq, Prod.mk.injEq, reduceCtorEq] at h
  all_goals
    obtain ⟨rfl, rfl⟩ := h
    rfl

theorem verb_of_operation (h : c.operation? = some (verb, id)) :
    verb = "status" ∨ verb = "download" := by
  cases c <;> simp_all [operation?]

theorem scope_of_request {r : HttpRequest} (h : c.request = .ok r) :
    c.device.address.scope = 0 := by
  rw [request] at h
  cases address : c.device.address with
  | v4 => rfl
  | v6 ip port scope =>
    by_contra other
    rw [SocketAddress.scope] at other
    rw [address, Endpoint.below, if_neg other] at h
    cases h

theorem request_of_operation (h : c.operation? = some (verb, id))
    (scopeless : c.device.address.scope = 0) :
    c.request = .ok {
      method := c.method
      endpoint := { address := c.device.address, parts := Endpoint.push ["api", verb] id }
      body := c.body? } := by
  rw [request, Endpoint.below_of_scope scopeless, parts_of_operation h]
  rfl

theorem ofText?_of_operation {r : HttpRequest} (h : c.operation? = some (verb, id))
    (sent : c.request = .ok r) :
    Url.ofText? r.endpoint.url.toList = some
      { host := (Endpoint.host c.device.address).toList, port := c.device.address.port.toNat
        path := (Endpoint.push ["api", verb] id).map String.toList
        query := none, fragment := none } := by
  obtain rfl := Except.ok.inj ((request_of_operation h (scope_of_request sent)).symm.trans sent)
  refine Endpoint.ofText?_url (Endpoint.push_ne_nil (by simp) id) (Endpoint.isClean_push ?_ id)
  intro p member
  obtain rfl | member := List.mem_cons.1 member
  · decide +kernel
  · obtain rfl := List.mem_singleton.1 member
    obtain rfl | rfl := verb_of_operation h <;> decide +kernel

theorem toList_parts_inj {ps qs : List String} :
    ps.map String.toList = qs.map String.toList ↔ ps = qs :=
  List.map_inj_right fun _ _ => String.toList_inj.1

theorem exists_last_iff : (∃ last, (Endpoint.push ["api", verb] id).map String.toList =
      ["api".toList, verb.toList, last] ∧ Url.partBytes last = Bytes.ofString id) ↔
    Endpoint.IsFaithful id := by
  rw [← Endpoint.exists_push_iff ["api", verb] id]
  constructor
  · rintro ⟨last, path, reads⟩
    refine ⟨String.ofList last, toList_parts_inj.1 ?_, by simpa⟩
    simpa using path
  · rintro ⟨last, path, reads⟩
    exact ⟨last.toList, by simp [path], reads⟩

theorem push_injective {id' : String} (h : Endpoint.IsFaithful id) (h' : Endpoint.IsFaithful id')
    {parts : List String} (same : Endpoint.push parts id = Endpoint.push parts id') : id = id' := by
  rw [Endpoint.push_of_isFaithful h, Endpoint.push_of_isFaithful h'] at same
  have last := List.singleton_inj.1 (List.append_cancel_left same)
  have bytes := congrArg (fun s : String => Url.partBytes s.toList) last
  simp only [Endpoint.partBytes_encode] at bytes
  exact String.toList_inj.1 (Utf8.encode_injective bytes)

/-- Whatever the id, a call about an operation goes to the host and the port of the device, below
the interface, without a query or a fragment. The path is the interface, the word for the call and a
part that stands for the id, exactly if the id is faithful, and no two faithful ids share an
address. -/
theorem address_of_operation (operation : c.operation? = some (verb, id))
    (scopeless : c.device.address.scope = 0) :
    ∃ r url, c.request = .ok r ∧ Url.ofText? r.endpoint.url.toList = some url ∧
      url.host = (Endpoint.host c.device.address).toList ∧
      url.port = c.device.address.port.toNat ∧ url.query = none ∧ url.fragment = none ∧
      ((∃ last, url.path = ["api".toList, verb.toList, last] ∧
        Url.partBytes last = Bytes.ofString id) ↔ Endpoint.IsFaithful id) ∧
      ∀ (c' : Call) (id' : String) (r' : HttpRequest),
        c'.operation? = some (verb, id') → c'.request = .ok r' →
        Endpoint.IsFaithful id → Endpoint.IsFaithful id' →
        r'.endpoint.url = r.endpoint.url → id' = id := by
  have sent := request_of_operation operation scopeless
  refine ⟨_, _, sent, ofText?_of_operation operation sent, rfl, rfl, rfl, rfl, exists_last_iff, ?_⟩
  intro c' id' r' operation' sent' faithful faithful' same
  have read := ofText?_of_operation operation sent
  rw [← same, ofText?_of_operation operation' sent', Option.some.injEq, Url.mk.injEq] at read
  have path := toList_parts_inj.1 read.2.2.1
  exact push_injective faithful' faithful path

def plainDevice : Device :=
  { address := .v4 ⟨10, 0, 0, 5⟩ 8080, name := "Dock", version := "1.0", lastSeen := 0 }

theorem address_of_marked_id :
    (status plainDevice "../a?b#c").operation? = some ("status", "../a?b#c") ∧
      plainDevice.address.scope = 0 ∧
      ∃ r url, (status plainDevice "../a?b#c").request = .ok r ∧
        Url.ofText? r.endpoint.url.toList = some url ∧
        url.host = "10.0.0.5".toList ∧ url.port = 8080 ∧ url.query = none ∧ url.fragment = none ∧
        ∃ last, url.path = ["api".toList, "status".toList, last] ∧
          Url.partBytes last = Bytes.ofString "../a?b#c" := by
  refine ⟨rfl, rfl, ?_⟩
  obtain ⟨r, url, sent, read, host, port, query, fragment, path, -⟩ :=
    address_of_operation (c := status plainDevice "../a?b#c") rfl rfl
  exact ⟨r, url, sent, read, host, port, query, fragment, path.2 (by decide +kernel)⟩

/-- A tab in an id is left out, so two operations share an address; two points leave no part at all.
-/
theorem address_of_tabbed_id :
    "a\tb" ≠ "ab" ∧ (status plainDevice "a\tb").request = (status plainDevice "ab").request ∧
      ((status plainDevice "..").request.toOption.bind fun r =>
        (Url.ofText? r.endpoint.url.toList).map Url.path) =
          some ["api".toList, "status".toList] := by
  decide +kernel

end Operation

end Call

end TitleDock
