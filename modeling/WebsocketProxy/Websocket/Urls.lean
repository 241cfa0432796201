import Mathlib.Data.List.TakeWhile
import WebsocketProxy.Websocket.Basic

/-!
# Urls

A url is `[scheme://]host[:port]path`. The constructor of a connection splits it by searching
for the first `://`, the first `/` after it, and the first `:` of what is between them. It finds
the parts again, unless a path without a scheme before it has `://` in it, the host is three
or four bytes long and has a port, or the port is the one the constructor takes for none.
-/

/-! ### Searching -/

namespace Bytes

/-- What does not begin the pattern is skipped. -/
theorem find_append {a : UInt8} {pat s : Bytes} (h : a ∉ s) (t : Bytes) :
  Bytes.find (a :: pat) (s ++ t) = (Bytes.find (a :: pat) t).map (· + s.length)
  := by
  induction s with
  | nil => simp
  | cons c s ih =>
      obtain ⟨hne, hs⟩ := not_or.mp (mt List.mem_cons.mpr h)
      have hskip : Bytes.find (a :: pat) (c :: (s ++ t))
          = (Bytes.find (a :: pat) (s ++ t)).map (· + 1) := by
        rw [Bytes.find, if_neg]
        simp [hne]
      rw [List.cons_append, hskip, ih hs, Option.map_map]
      rfl

theorem find_self {a : UInt8} {pat : Bytes} (t : Bytes) :
  Bytes.find (a :: pat) (a :: pat ++ t) = some 0
  := by
  rw [List.cons_append, Bytes.find, if_pos]
  simp

theorem find_nil (a : UInt8) (pat : Bytes) :
  Bytes.find (a :: pat) [] = none
  := by simp [Bytes.find]

theorem find_eq_none {a : UInt8} {pat s : Bytes} (h : a ∉ s) :
  Bytes.find (a :: pat) s = none
  := by
  have hfind := @find_append a pat s h []
  rw [List.append_nil, find_nil] at hfind
  exact hfind

end Bytes

/-- The bytes that separate the parts of a url. -/
def colon : UInt8 := 58

def slash : UInt8 := 47

theorem toBytes_separator :
  toBytes "://" = [colon, slash, slash]
  := by decide +kernel

theorem toBytes_slash :
  toBytes "/" = [slash]
  := by decide +kernel

theorem toBytes_colon :
  toBytes ":" = [colon]
  := by decide +kernel

/-! ### Urls -/

namespace Url

/-- The schemes. -/
inductive Scheme where
  | ws
  | wss

def Scheme.text : Scheme → Bytes
  | .ws => toBytes "ws"
  | .wss => toBytes "wss"

end Url

/-- A url, by its parts. The port is given by its digits. -/
structure Url where
  scheme : Option Url.Scheme
  host : Bytes
  port : Option Bytes
  path : Bytes
  host_nonempty : host ≠ []
  colon_notMem_host : colon ∉ host
  slash_notMem_host : slash ∉ host
  port_digits : ∀ digits ∈ port, ∀ c ∈ digits, isDigit c
  port_pos : ∀ digits ∈ port, 1 ≤ digitsValue digits
  port_le : ∀ digits ∈ port, digitsValue digits ≤ 65535
  path_absolute : path = [] ∨ ∃ rest, path = slash :: rest

namespace Url

variable (u : Url)

/-- The text before the host. -/
def schemeText : Bytes :=
  match u.scheme with
  | some scheme => scheme.text ++ toBytes "://"
  | none => []

/-- The text between the scheme and the path. -/
def authority : Bytes :=
  match u.port with
  | some digits => u.host ++ colon :: digits
  | none => u.host

/-- The text of the url. -/
def text : Bytes := u.schemeText ++ u.authority ++ u.path

/-- The path that is asked for. -/
def target : Bytes := if u.path = [] then toBytes "/" else u.path

/-- The port of the url, or the one its scheme stands for. -/
def portNumber : ℕ :=
  match u.port, u.scheme with
  | some digits, _ => digitsValue digits
  | none, some .ws => 80
  | none, _ => 443

/-- The connection has the parts of the url. -/
structure ParsedAs (ws : Websocket) : Prop where
  host : ws.host = u.host
  path : ws.path = u.target
  port : ws.port.toNat = u.portNumber

/-- The url is one the constructor splits right. -/
structure Plain : Prop where
  /-- A path after no scheme has no `://` in it. -/
  path : u.scheme = none → Bytes.find (toBytes "://") u.path = none
  /-- A host with a port is not three or four bytes long. -/
  host : u.port.isSome → u.host.length ≠ 3 ∧ u.host.length ≠ 4
  /-- The port is not the one that stands for none. -/
  port : ∀ digits ∈ u.port, digitsValue digits ≠ 65535

variable {u}

/-! ### The parts -/

theorem slash_not_digit : ¬ isDigit slash := by decide

theorem colon_not_digit : ¬ isDigit colon := by decide

theorem slash_notMem_authority :
  slash ∉ u.authority
  := by
  unfold authority
  split
  case h_1 digits hport =>
    rw [List.mem_append, List.mem_cons, not_or, not_or]
    refine ⟨u.slash_notMem_host, by decide, ?_⟩
    exact fun h => slash_not_digit (u.port_digits digits hport slash h)
  case h_2 => exact u.slash_notMem_host

/-- The separator does not begin before the path. -/
theorem find_separator_authority :
  Bytes.find (toBytes "://") (u.authority ++ u.path)
    = (Bytes.find (toBytes "://") u.path).map (· + u.authority.length)
  := by
  rw [toBytes_separator]
  unfold authority
  split
  case h_1 digits hport =>
    have hdigits : colon ∉ digits :=
      fun h => colon_not_digit (u.port_digits digits hport colon h)
    obtain ⟨d, ds, rfl⟩ : ∃ d ds, digits = d :: ds := by
      cases digits with
      | nil => exact absurd (u.port_pos [] hport) (by decide)
      | cons d ds => exact ⟨d, ds, rfl⟩
    have hd : d ≠ slash := by
      rintro rfl
      apply slash_not_digit (u.port_digits _ hport slash List.mem_cons_self)
    have hskip : Bytes.find [colon, slash, slash] (colon :: (d :: ds ++ u.path))
        = (Bytes.find [colon, slash, slash] (d :: ds ++ u.path)).map (· + 1) := by
      rw [Bytes.find, if_neg]
      simp [Ne.symm hd]
    rw [List.append_assoc, Bytes.find_append u.colon_notMem_host, List.cons_append, hskip,
      Bytes.find_append hdigits, Option.map_map, Option.map_map]
    congr 1
    funext n
    simp only [Function.comp, List.length_append, List.length_cons]
    omega
  case h_2 => rw [Bytes.find_append u.colon_notMem_host]

/-- The path begins with the first slash after the scheme. -/
theorem find_slash_authority :
  Bytes.find (toBytes "/") (u.authority ++ u.path)
    = if u.path = [] then none else some u.authority.length
  := by
  rw [toBytes_slash, Bytes.find_append slash_notMem_authority]
  rcases u.path_absolute with hpath | ⟨rest, hpath⟩
  · rw [hpath, Bytes.find_nil]
    rfl
  · rw [hpath, if_neg (List.cons_ne_nil _ _)]
    have hself := @Bytes.find_self slash [] rest
    rw [List.cons_append, List.nil_append] at hself
    rw [hself, Option.map_some, Nat.zero_add]

theorem colon_notMem_scheme (scheme : Scheme) :
  colon ∉ scheme.text
  := by
  cases scheme with
  | ws => decide +kernel
  | wss => decide +kernel

/-- The protocol the constructor goes by. -/
def protocol (u : Url) : Bytes := (u.scheme.getD .wss).text

/-- The separator of the scheme is found, unless a path after no scheme has one. -/
theorem splitUrl_text (hpath : u.scheme = none → Bytes.find (toBytes "://") u.path = none) :
  Websocket.splitUrl u.text = (u.protocol, u.authority, u.target)
  := by
  cases hscheme : u.scheme with
  | none =>
      have hnone : Bytes.find (toBytes "://") (u.authority ++ u.path) = none := by
        rw [find_separator_authority, hpath hscheme]
        rfl
      have htext : u.text = u.authority ++ u.path := by simp [text, schemeText, hscheme]
      have hprotocol : u.protocol = toBytes "wss" := by simp [protocol, hscheme, Scheme.text]
      rw [Websocket.splitUrl, htext, hnone, find_slash_authority, hprotocol, target]
      rcases eq_or_ne u.path [] with hempty | hnonempty
      · rw [if_pos hempty, if_pos hempty, hempty, List.append_nil]
      · rw [if_neg hnonempty, if_neg hnonempty]
        dsimp only
        rw [List.take_left, List.drop_left]
  | some scheme =>
      have htext : u.text = scheme.text ++ (toBytes "://" ++ (u.authority ++ u.path)) := by
        simp [text, schemeText, hscheme]
      have hprotocol : u.protocol = scheme.text := by simp [protocol, hscheme]
      have hfind : Bytes.find (toBytes "://") u.text = some scheme.text.length := by
        rw [htext, toBytes_separator, Bytes.find_append (colon_notMem_scheme scheme),
          Bytes.find_self, Option.map_some, Nat.zero_add]
      have htake : u.text.take scheme.text.length = scheme.text := by rw [htext, List.take_left]
      have hdrop : u.text.drop (scheme.text.length + 3) = u.authority ++ u.path := by
        rw [htext, ← List.drop_drop, List.drop_left, toBytes_separator]
        rfl
      have hslash : Bytes.findFrom (toBytes "/") u.text (scheme.text.length + 3)
          = if u.path = [] then none
            else some (u.authority.length + (scheme.text.length + 3)) := by
        rw [Bytes.findFrom, hdrop, find_slash_authority]
        split
        · rfl
        · rfl
      rw [Websocket.splitUrl, hfind]
      dsimp only
      rw [hslash, hdrop, htake, hprotocol, target]
      rcases eq_or_ne u.path [] with hempty | hnonempty
      · rw [if_pos hempty, if_pos hempty, hempty, List.append_nil]
      · rw [if_neg hnonempty, if_neg hnonempty]
        dsimp only
        rw [Nat.add_sub_cancel, List.take_left, Nat.add_comm, ← List.drop_drop, hdrop,
          List.drop_left]

/-- A separator in a path after no scheme is taken for that of a scheme, and what is taken for
the path is shorter. -/
theorem splitUrl_path_ne (hscheme : u.scheme = none)
    (hpath : Bytes.find (toBytes "://") u.path ≠ none) :
  (Websocket.splitUrl u.text).2.2 ≠ u.target
  := by
  obtain ⟨pos, hpos⟩ := Option.ne_none_iff_exists'.mp hpath
  have htext : u.text = u.authority ++ u.path := by simp [text, schemeText, hscheme]
  have hfind : Bytes.find (toBytes "://") u.text = some (pos + u.authority.length) := by
    rw [htext, find_separator_authority, hpos, Option.map_some]
  have hlength : 1 < u.path.length := by
    rcases u.path_absolute with hempty | ⟨rest, hrest⟩
    · rw [hempty, toBytes_separator, Bytes.find_nil] at hpath
      exact absurd rfl hpath
    · cases rest with
      | nil =>
          rw [hrest] at hpath
          exact absurd (by decide +kernel) hpath
      | cons c rest =>
          rw [hrest, List.length_cons, List.length_cons]
          omega
  have hnonempty : u.path ≠ [] := List.ne_nil_of_length_pos (by omega)
  rw [target, if_neg hnonempty, Websocket.splitUrl, hfind]
  dsimp only
  intro heq
  have hlen := congrArg List.length heq
  split at hlen
  case h_1 =>
    rw [toBytes_slash] at hlen
    exact absurd hlen (Nat.ne_of_lt hlength)
  case h_2 pos' hpos' =>
    obtain ⟨n, -, rfl⟩ := Option.map_eq_some_iff.mp hpos'
    rw [List.length_drop, htext, List.length_append] at hlen
    omega

/-! ### The port -/

theorem isDigit_iff {c : UInt8} :
  isDigit c ↔ 48 ≤ c.toNat ∧ c.toNat ≤ 57
  := by simp [isDigit, UInt8.le_iff_toNat_le]

/-- A digit is neither white space nor a sign. -/
theorem not_isSpace_of_isDigit {c : UInt8} (h : isDigit c) :
  isSpace c = false ∧ c ≠ 45 ∧ c ≠ 43
  := by
  rw [isDigit_iff] at h
  refine ⟨?_, ?_, ?_⟩
  · simp only [isSpace, UInt8.le_iff_toNat_le, ← UInt8.toNat_inj]
    simp
    omega
  · rintro rfl
    simp at h
  · rintro rfl
    simp at h

/-- `std::stoi` reads the digits of a port. -/
theorem stoi_digits {digits : Bytes} (hdigits : ∀ c ∈ digits, isDigit c)
    (hpos : 1 ≤ digitsValue digits) (hle : digitsValue digits ≤ 65535) :
  stoi digits = some (digitsValue digits : ℤ)
  := by
  obtain ⟨d, ds, rfl⟩ : ∃ d ds, digits = d :: ds := by
    cases digits with
    | nil => exact absurd hpos (by decide)
    | cons d ds => exact ⟨d, ds, rfl⟩
  obtain ⟨hspace, hminus, hplus⟩ := not_isSpace_of_isDigit (hdigits d List.mem_cons_self)
  have hdrop : (d :: ds).dropWhile isSpace = d :: ds :=
    List.dropWhile_cons_of_neg (by simp [hspace])
  have htake : (d :: ds).takeWhile isDigit = d :: ds := List.takeWhile_eq_self_iff.mpr hdigits
  have hnegative : ¬ (d :: ds).head? = some 45 := by simp [hminus]
  have hsign : ¬ ((d :: ds).head? = some 45 ∨ (d :: ds).head? = some 43) := by
    simp [hminus, hplus]
  simp only [stoi, hdrop, if_neg hsign, htake, if_neg hnegative]
  rw [if_neg (List.cons_ne_nil d ds), if_pos]
  omega

/-- The host and the port are found, unless a colon is where none is looked for. -/
theorem splitHost_authority (hhost : u.port.isSome → u.host.length ≠ 3 ∧ u.host.length ≠ 4) :
  Websocket.splitHost u.authority
    = some (u.host, match u.port with
      | some digits => UInt16.ofNat (digitsValue digits)
      | none => 65535)
  := by
  cases hport : u.port with
  | none =>
      have hauthority : u.authority = u.host := by simp [authority, hport]
      have hcolon : Websocket.portColon u.host = none := by
        rw [Websocket.portColon, toBytes_colon, Bytes.find_eq_none u.colon_notMem_host]
        rfl
      rw [hauthority, Websocket.splitHost, hcolon]
  | some digits =>
      have hauthority : u.authority = u.host ++ colon :: digits := by simp [authority, hport]
      have hcolon : Websocket.portColon u.authority = some u.host.length := by
        have hself := @Bytes.find_self colon [] digits
        rw [List.cons_append, List.nil_append] at hself
        rw [Websocket.portColon, toBytes_colon, hauthority, Bytes.find_append u.colon_notMem_host,
          hself, Option.map_some, Nat.zero_add, Option.filter_some, if_pos]
        exact decide_eq_true (hhost (by rw [hport]; rfl))
      have htake : u.authority.take u.host.length = u.host := by rw [hauthority, List.take_left]
      have hdrop : u.authority.drop (u.host.length + 1) = digits := by
        rw [hauthority, ← List.drop_drop, List.drop_left]
        rfl
      have hle := u.port_le digits hport
      have hstoi := stoi_digits (u.port_digits digits hport) (u.port_pos digits hport) hle
      have hcut : ((digitsValue digits : ℤ) % 65536).toNat = digitsValue digits := by omega
      rw [Websocket.splitHost, hcolon]
      dsimp only
      rw [htake, hdrop, hstoi, Option.map_some, hcut]

/-- A colon at position three or four is left in the host. -/
theorem splitHost_of_short {digits : Bytes} (hport : u.port = some digits)
    (hhost : u.host.length = 3 ∨ u.host.length = 4) :
  Websocket.splitHost u.authority = some (u.authority, 65535)
  := by
  have hauthority : u.authority = u.host ++ colon :: digits := by simp [authority, hport]
  have hcolon : Websocket.portColon u.authority = none := by
    have hself := @Bytes.find_self colon [] digits
    rw [List.cons_append, List.nil_append] at hself
    rw [Websocket.portColon, toBytes_colon, hauthority, Bytes.find_append u.colon_notMem_host,
      hself, Option.map_some, Nat.zero_add, Option.filter_some, if_neg]
    simp only [decide_eq_true_eq]
    omega
  rw [Websocket.splitHost, hcolon]

/-! ### The constructor -/

/-- The constructor goes by what the url and then the host part are split into. -/
theorem new_eq_some {id : UInt64} {url apiKey : Bytes} {msg : ℕ} {ws : Websocket}
    (h : Websocket.new id url apiKey msg = some ws) :
  ∃ port, Websocket.splitHost (Websocket.splitUrl url).2.1 = some (ws.host, port) ∧
    ws.path = (Websocket.splitUrl url).2.2 ∧
    ws.port = if port = 65535 then (if (Websocket.splitUrl url).1 = toBytes "ws" then 80 else 443)
      else port
  := by
  obtain ⟨⟨host, port⟩, hsplit, rfl⟩ := Option.map_eq_some_iff.mp h
  exact ⟨port, hsplit, rfl, rfl⟩

theorem new_of_split (id : UInt64) (apiKey : Bytes) (msg : ℕ)
    {url protocol part path host : Bytes} {port : UInt16}
    (hurl : Websocket.splitUrl url = (protocol, part, path))
    (hhost : Websocket.splitHost part = some (host, port)) :
  ∃ ws, Websocket.new id url apiKey msg = some ws ∧ ws.host = host ∧ ws.path = path ∧
    ws.port = if port = 65535 then (if protocol = toBytes "ws" then 80 else 443) else port
  := by
  rw [Websocket.new, hurl]
  dsimp only
  rw [hhost]
  exact ⟨_, rfl, rfl, rfl, rfl⟩

theorem protocol_eq_ws_iff :
  u.protocol = toBytes "ws" ↔ u.scheme = some .ws
  := by
  have hne : toBytes "wss" ≠ toBytes "ws" := by decide +kernel
  cases hscheme : u.scheme with
  | none => simp [protocol, hscheme, Scheme.text, hne]
  | some scheme =>
      cases scheme with
      | ws => simp [protocol, hscheme, Scheme.text]
      | wss => simp [protocol, hscheme, Scheme.text, hne]

/-- The port of a plain url is found. -/
theorem Plain.port_eq (h : u.Plain) {port : UInt16}
    (hport : port = match u.port with
      | some digits => UInt16.ofNat (digitsValue digits)
      | none => 65535) :
  (if port = 65535 then (if u.protocol = toBytes "ws" then 80 else 443) else port).toNat
    = u.portNumber
  := by
  rw [hport]
  cases hdigits : u.port with
  | none =>
      dsimp only
      rw [if_pos rfl, portNumber, hdigits]
      rcases em (u.scheme = some .ws) with hws | hnot
      · rw [if_pos (protocol_eq_ws_iff.mpr hws), hws]
        rfl
      · rw [if_neg (fun h => hnot (protocol_eq_ws_iff.mp h))]
        cases hscheme : u.scheme with
        | none => rfl
        | some scheme =>
            cases scheme with
            | ws => exact absurd hscheme hnot
            | wss => rfl
  | some digits =>
      have hle := u.port_le digits hdigits
      have hne := h.port digits hdigits
      have htoNat : (UInt16.ofNat (digitsValue digits)).toNat = digitsValue digits :=
        UInt16.toNat_ofNat_of_lt' (Nat.lt_of_le_of_lt hle (by decide))
      have hport : UInt16.ofNat (digitsValue digits) ≠ 65535 := by
        intro heq
        rw [heq] at htoNat
        apply hne htoNat.symm
      dsimp only
      rw [if_neg hport, htoNat, portNumber, hdigits]

/-- The constructor finds the parts of a url again if and only if the url is a plain one. -/
theorem new_parses_iff (u : Url) (id : UInt64) (apiKey : Bytes) (msg : ℕ) :
  (∃ ws, Websocket.new id u.text apiKey msg = some ws ∧ u.ParsedAs ws) ↔ u.Plain
  := by
  constructor
  · rintro ⟨ws, hnew, hparsed⟩
    obtain ⟨port, hsplit, hwsPath, hwsPort⟩ := new_eq_some hnew
    have hpath : u.scheme = none → Bytes.find (toBytes "://") u.path = none := by
      intro hscheme
      by_contra hfound
      apply splitUrl_path_ne hscheme hfound
      rw [← hwsPath, hparsed.path]
    rw [splitUrl_text hpath] at hsplit hwsPort
    dsimp only at hsplit hwsPort
    have hhost : u.port.isSome → u.host.length ≠ 3 ∧ u.host.length ≠ 4 := by
      intro hsome
      obtain ⟨digits, hdigits⟩ := Option.isSome_iff_exists.mp hsome
      by_contra hlength
      rw [splitHost_of_short hdigits (by omega), hparsed.host] at hsplit
      have hauthority := congrArg (fun p => p.1.length) (Option.some.inj hsplit)
      simp [authority, hdigits] at hauthority
    use hpath, hhost
    intro digits hdigits hvalue
    rw [splitHost_authority hhost, hdigits] at hsplit
    have hport : port = 65535 := by
      have := congrArg Prod.snd (Option.some.inj hsplit)
      dsimp only at this
      rw [← this, hvalue]
      rfl
    have hparsedPort := hparsed.port
    rw [portNumber, hdigits] at hparsedPort
    dsimp only at hparsedPort
    rw [hvalue, hwsPort, if_pos hport] at hparsedPort
    split at hparsedPort
    · cases hparsedPort
    · cases hparsedPort
  · intro hplain
    obtain ⟨ws, hnew, hhost, hpath, hport⟩ := new_of_split id apiKey msg
      (splitUrl_text hplain.path) (splitHost_authority hplain.host)
    use ws, hnew, hhost, hpath
    rw [hport]
    apply hplain.port_eq rfl

/-! ### Urls that are not plain -/

/-- `wss://abc:8080`: the host is three bytes long. -/
def shortHost : Url where
  scheme := some .wss
  host := toBytes "abc"
  port := some (toBytes "8080")
  path := []
  host_nonempty := by decide +kernel
  colon_notMem_host := by decide +kernel
  slash_notMem_host := by decide +kernel
  port_digits := by decide +kernel
  port_pos := by decide +kernel
  port_le := by decide +kernel
  path_absolute := Or.inl rfl

/-- `wss://a:65535`: the port is the one that stands for none. -/
def lastPort : Url where
  scheme := some .wss
  host := toBytes "a"
  port := some (toBytes "65535")
  path := []
  host_nonempty := by decide +kernel
  colon_notMem_host := by decide +kernel
  slash_notMem_host := by decide +kernel
  port_digits := by decide +kernel
  port_pos := by decide +kernel
  port_le := by decide +kernel
  path_absolute := Or.inl rfl

/-- `a/://b/c`: a path after no scheme has `://` in it. -/
def separatorInPath : Url where
  scheme := none
  host := toBytes "a"
  port := none
  path := toBytes "/://b/c"
  host_nonempty := by decide +kernel
  colon_notMem_host := by decide +kernel
  slash_notMem_host := by decide +kernel
  port_digits := by decide +kernel
  port_pos := by decide +kernel
  port_le := by decide +kernel
  path_absolute := Or.inr ⟨toBytes "://b/c", by decide +kernel⟩

/-- The port is left in a short host, the last port is taken for none, and a separator in the
path is taken for that of a scheme. -/
theorem not_new_parses :
  (∃ ws ∈ Websocket.new 70001 shortHost.text [] 0,
    ws.host = toBytes "abc:8080" ∧ ws.port.toNat = 443) ∧
  (∃ ws ∈ Websocket.new 70001 lastPort.text [] 0,
    ws.host = toBytes "a" ∧ ws.port.toNat = 443) ∧
  ∃ ws ∈ Websocket.new 70001 separatorInPath.text [] 0,
    ws.host = toBytes "b" ∧ ws.path = toBytes "/c"
  := by decide +kernel

end Url
