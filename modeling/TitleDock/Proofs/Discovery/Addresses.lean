import TitleDock.Discovery.Feed
import TitleDock.Discovery.Reply
import TitleDock.Proofs.Discovery.Adding
import TitleDock.Proofs.Net.Printing

/-! The texts of addresses where devices are named. The printed host of a device names it again, by
hand with its port and among the instructions of a simulation. Devices that were named by hand or
that replied have different roots of their web interfaces if their addresses differ. -/

namespace TitleDock

/-- A device whose address was given by hand, or that replied. -/
inductive Device.IsNamed (d : Device) : Prop
  | byHand {host : String} {port : Nat} (named : manualAddress host port = .ok d.address)
  | byReply {reply : Reply} {source : IpAddress} {now : Nat} (replied : d = reply.toDevice source now)

def IpAddress.bracketed : IpAddress → List Char
  | .v4 ip => ip.text
  | .v6 ip => '[' :: ip.text ++ [']']

section Naming

variable {ip : IpAddress} {port : UInt16} {d e : Device}

@[simp] theorem ip_ofIp (ip : IpAddress) (port : UInt16) : (SocketAddress.ofIp ip port).ip = ip := by
  cases ip <;> rfl

@[simp] theorem port_ofIp (ip : IpAddress) (port : UInt16) :
    (SocketAddress.ofIp ip port).port = port := by
  cases ip <;> rfl

theorem namesAddress_text {left right : List Char} (before : ∀ c ∈ left, Text.isBlank c = true)
    (after : ∀ c ∈ right, Text.isBlank c = true) (valid : port ≠ 0) :
    NamesAddress (String.ofList left ++ toString ip ++ String.ofList right) port.toNat
      (.ofIp ip port) where
  host := ⟨left, ip.text, right, by simp [toString], before, after, by simpa using ip.isText_text⟩
  port := by rw [port_ofIp]
  valid := by rwa [port_ofIp]
  plain := by rw [ip_ofIp, port_ofIp]

theorem simulated_text (a : SocketAddress) : SimulationLine.address? a.text = some a := by
  rw [SimulationLine.address?, SocketAddress.ofText?_text]

theorem simulated_literal (ip : IpAddress) :
    SimulationLine.address? ip.text = some (.ofIp ip 8080) := by
  rw [SimulationLine.address?, SocketAddress.ofText?_literal, IpAddress.ofText?_text]
  rfl

theorem Device.IsNamed.exists_ofIp (h : d.IsNamed) : ∃ ip port, d.address = .ofIp ip port := by
  cases h with
  | @byHand host port named =>
    obtain ⟨a, names, checked⟩ | ⟨-, text, refused⟩ := manualAddress_cases host port
    · rw [checked] at named
      cases named
      exact ⟨_, _, names.plain⟩
    · rw [refused] at named
      cases named
  | byReply replied => exact ⟨_, _, by rw [replied]; rfl⟩

theorem toList_baseUrl (d : Device) : d.baseUrl.toList = "http://".toList ++ d.address.text := by
  simp [Device.baseUrl, toString]

theorem baseUrl_injective (h : d.baseUrl = e.baseUrl) : d.address = e.address := by
  have same := congrArg String.toList h
  rw [toList_baseUrl, toList_baseUrl] at same
  exact SocketAddress.text_injective (List.append_cancel_left same)

theorem text_ofIp (ip : IpAddress) (port : UInt16) :
    (SocketAddress.ofIp ip port).text = ip.bracketed ++ ':' :: Decimal.digits port.toNat := by
  cases ip <;> simp [SocketAddress.ofIp, SocketAddress.text, IpAddress.bracketed]

end Naming

/-- The printed form of a host is a dotted quad, or groups in hexadecimal with the first longest run
of zeros left out, or an IPv4 address in an IPv6 one. By hand, with a port and any blanks around it,
it names this host and this port. In a simulation the printed address is read back, and so is the
host alone, which listens on port 8080. Devices that were named by hand or that replied have the
printed address as the root of their web interface, an IPv6 host in brackets, and no two addresses
have the same. -/
theorem printed_addresses_are_read_back (ip : IpAddress) (port : UInt16) (left right : List Char)
    (valid : port ≠ 0) (before : ∀ c ∈ left, Text.isBlank c = true)
    (after : ∀ c ∈ right, Text.isBlank c = true) :
    let a := SocketAddress.ofIp ip port
    ip.IsPrinted (toString ip).toList ∧
      manualAddress (String.ofList left ++ toString ip ++ String.ofList right) port.toNat = .ok a ∧
      SimulationLine.address? (toString a).toList = some a ∧
      SimulationLine.address? (toString ip).toList = some (.ofIp ip 8080) ∧
      ∀ d e : Device, d.IsNamed → e.IsNamed →
        d.baseUrl.toList = "http://".toList ++ d.address.ip.bracketed ++ ':' ::
            Decimal.digits d.address.port.toNat ∧
          (d.address ≠ e.address → d.baseUrl ≠ e.baseUrl) := by
  intro a
  have printed : (toString ip).toList = ip.text := String.toList_ofList
  have printed' : (toString a).toList = a.text := String.toList_ofList
  rw [printed, printed']
  refine ⟨ip.isPrinted_text, (namesAddress_text before after valid).manualAddress_eq,
    simulated_text a, simulated_literal ip, fun d e named _ => ⟨?_, fun other same => ?_⟩⟩
  · obtain ⟨host, number, plain⟩ := named.exists_ofIp
    rw [toList_baseUrl, plain, text_ofIp, ip_ofIp, port_ofIp, List.append_assoc]
  · exact other (baseUrl_injective same)

/-- Of two runs of zeros as long as each other the first is left out; the other stays. -/
theorem printed_zeros_are_read_back :
    let ip : IpAddress := .v6 ⟨[0x2001, 0xDB8, 0, 0, 1, 0, 0, 7], rfl⟩
    let a := SocketAddress.ofIp ip 443
    let d := Reply.toDevice { port := 443, name := "Dock", version := "1" } ip 5
    let e := Reply.toDevice { port := 444, name := "Dock", version := "1" } ip 5
    toString ip = "2001:db8::1:0:0:7" ∧ manualAddress " 2001:db8::1:0:0:7\n" 443 = .ok a ∧
      SimulationLine.address? "[2001:db8::1:0:0:7]:443".toList = some a ∧
      SimulationLine.address? "2001:db8::1:0:0:7".toList = some (.ofIp ip 8080) ∧
      d.baseUrl ≠ e.baseUrl := by
  intro ip a d e
  have text : toString ip = "2001:db8::1:0:0:7" := by decide
  have text' : toString a = "[2001:db8::1:0:0:7]:443" := by decide
  obtain ⟨-, named, whole, bare, urls⟩ := printed_addresses_are_read_back ip 443 [' '] ['\n']
    (by decide) (by simp [Text.isBlank]) (by simp [Text.isBlank])
  rw [text] at named bare
  rw [text'] at whole
  exact ⟨text, named, whole, bare, (urls d e (.byReply rfl) (.byReply rfl)).2 (by decide)⟩

end TitleDock
