import VoxType.Daemon.Validation
import VoxType.Library.Authority

/-!
# Endpoints in plain text

What the two tests of an authority establish of the host that is connected to.
-/

namespace VoxType

set_option autoImplicit false

def loopbackNames : List (List Char) :=
  ["localhost".toList, "127.0.0.1".toList, "[::1]".toList]

/-- Hosts are compared without regard to ASCII case. -/
def isLoopbackHost (host : List Char) : Bool := loopbackNames.contains (host.map Char.toLower)

/-- What follows the scheme and its slashes. -/
def afterScheme (endpoint : String) : List Char :=
  (RustText.stripPrefix? "://".toList (endpoint.toList.dropWhile (· != ':'))).getD []

/-- The endpoint is encrypted, or its host is this machine. -/
def PlainOnLoopback (secure : String) (endpoint : String) : Prop :=
  Uri.scheme endpoint.toList = secure.toList ∨
    isLoopbackHost (Uri.host (afterScheme endpoint)) = true

/-- The endpoint is encrypted, or whatever follows a userinfo is this machine. -/
def NoForeignUserinfo (secure : String) (endpoint : String) : Prop :=
  Uri.scheme endpoint.toList = secure.toList ∨
    ∀ userinfo hostport, Uri.authority (afterScheme endpoint) = userinfo ++ '@' :: hostport →
      '@' ∉ hostport → isLoopbackHost (Uri.withoutPort hostport) = true

/-- The authority is a loopback name, with or without a colon and more after it. -/
def NamesLoopback (authority : List Char) : Prop :=
  ∃ name ∈ loopbackNames, authority = name ∨ ∃ port, authority = name ++ ':' :: port

theorem startsWith_iff {text marker : String} :
    startsWith text marker = true ↔ ∃ rest, text.toList = marker.toList ++ rest := by
  rw [startsWith, Option.isSome_iff_exists]
  exact exists_congr fun rest => RustText.stripPrefix?_eq_some

theorem namesLoopback_of_test {authority : String}
    (h : (authority == "localhost" || startsWith authority "localhost:" ||
      authority == "127.0.0.1" || startsWith authority "127.0.0.1:" ||
      authority == "[::1]" || startsWith authority "[::1]:") = true) :
    NamesLoopback authority.toList := by
  simp only [Bool.or_eq_true, beq_iff_eq, startsWith_iff] at h
  rcases h with ((((h | h) | h) | h) | h) | h
  · exact ⟨_, .head _, .inl (congrArg String.toList h)⟩
  · obtain ⟨port, hPort⟩ := h
    exact ⟨_, .head _, .inr ⟨port, hPort⟩⟩
  · exact ⟨_, .tail _ (.head _), .inl (congrArg String.toList h)⟩
  · obtain ⟨port, hPort⟩ := h
    exact ⟨_, .tail _ (.head _), .inr ⟨port, hPort⟩⟩
  · exact ⟨_, .tail _ (.tail _ (.head _)), .inl (congrArg String.toList h)⟩
  · obtain ⟨port, hPort⟩ := h
    exact ⟨_, .tail _ (.tail _ (.head _)), .inr ⟨port, hPort⟩⟩

/-- Only a capital letter is another character in lower case. -/
theorem toLower_eq {c d : Char} (h : c.toLower = d) (hLower : d.isLower = false) : c = d := by
  rw [Char.toLower] at h
  split at h
  case isTrue hUpper =>
    subst h
    simp only [Char.isLower, ge_iff_le, Bool.and_eq_false_iff, decide_eq_false_iff_not,
      UInt32.le_iff_toNat_le, UInt32.toNat_add, UInt32.toNat_sub, Nat.not_le] at hLower hUpper
    have hA : 'A'.val.toNat = 65 := rfl
    have hZ : 'Z'.val.toNat = 90 := rfl
    have ha : 'a'.val.toNat = 97 := rfl
    have hz : 'z'.val.toNat = 122 := rfl
    omega
  case isFalse => exact h

theorem toLower_delimiter {c : Char} (h : Uri.isDelimiter c = true) : c.toLower = c := by
  simp only [Uri.isDelimiter, Bool.or_eq_true, beq_iff_eq] at h
  rcases h with (rfl | rfl) | rfl <;> rfl

/-- A text that is a loopback name in lower case, with what may follow it. -/
theorem loopback_split {text : List Char} (h : NamesLoopback (text.map Char.toLower)) :
    ∃ name rest, text = name ++ rest ∧ name.map Char.toLower ∈ loopbackNames ∧
      (rest = [] ∨ ∃ port, rest = ':' :: port) := by
  obtain ⟨name, hName, hText | ⟨port, hText⟩⟩ := h
  · exact ⟨text, [], (List.append_nil text).symm, hText ▸ hName, .inl rfl⟩
  · obtain ⟨name', rest, rfl, hName', hRest⟩ := List.map_eq_append_iff.mp hText
    obtain ⟨c, port', rfl, hColon, -⟩ := List.map_eq_cons_iff.mp hRest
    exact ⟨name', c :: port', rfl, hName' ▸ hName, .inr ⟨port', by rw [toLower_eq hColon rfl]⟩⟩

theorem map_toLower_eq {name : List Char}
    (hLower : ∀ d ∈ name.map Char.toLower, d.isLower = false) : name.map Char.toLower = name := by
  induction name with
  | nil => rfl
  | cons c name ih =>
    rw [List.map_cons, List.forall_mem_cons] at hLower
    rw [List.map_cons, ih hLower.2, ← toLower_eq rfl hLower.1]

/-- No loopback name holds the end of an authority. -/
theorem isDelimiter_of_mem_loopback :
    ∀ name ∈ loopbackNames, ∀ c ∈ name, Uri.isDelimiter c = false := by
  simp [loopbackNames, Uri.isDelimiter]

theorem loopback_withoutPort {name rest : List Char} (hName : name.map Char.toLower ∈ loopbackNames)
    (hRest : rest = [] ∨ ∃ port, rest = ':' :: port) : Uri.withoutPort (name ++ rest) = name := by
  have hPlain : ':' ∉ name.map Char.toLower → '[' ∉ name.map Char.toLower →
      name.map Char.toLower ≠ [] → Uri.withoutPort (name ++ rest) = name := by
    intro hColon hBracket hNonempty
    refine Uri.withoutPort_name (fun hMem => hColon ?_) (fun hMem => hBracket ?_) ?_ hRest
    · exact List.mem_map.mpr ⟨':', hMem, rfl⟩
    · exact List.mem_map.mpr ⟨'[', hMem, rfl⟩
    · rintro rfl
      exact hNonempty rfl
  simp only [loopbackNames, List.mem_cons, List.not_mem_nil, or_false] at hName
  rcases hName with hName | hName | hName
  · rw [hName] at hPlain
    exact hPlain (by decide) (by decide) (by decide)
  · rw [hName] at hPlain
    exact hPlain (by decide) (by decide) (by decide)
  · have hSame : name.map Char.toLower = name := by
      refine map_toLower_eq ?_
      rw [hName]
      simp [Char.isLower]
    rw [← hSame, hName]
    rfl

/-- Where the test of a code path sees a loopback name and there is no userinfo, the host is it. -/
theorem loopback_host {rest : List Char} {inAuthority : Char → Bool}
    (hWider : ∀ c, Uri.isDelimiter c = false → inAuthority c = true)
    (h : NamesLoopback ((rest.takeWhile inAuthority).map Char.toLower))
    (hNoUserinfo : '@' ∉ Uri.authority rest) : isLoopbackHost (Uri.host rest) = true := by
  obtain ⟨name, tail, hText, hName, hTail⟩ := loopback_split h
  have hInner : Uri.authority rest = Uri.authority (rest.takeWhile inAuthority) := by
    rw [Uri.authority, Uri.authority, List.takeWhile_takeWhile]
    congr 1
    funext c
    cases hDelimiter : Uri.isDelimiter c with
    | true => simp
    | false => simp [hWider c hDelimiter]
  have hNameChars : ∀ c ∈ name, (!Uri.isDelimiter c) = true := by
    intro c hMem
    rw [Bool.not_eq_true']
    cases hDelimiter : Uri.isDelimiter c with
    | false => rfl
    | true =>
      have hLower : c ∈ name.map Char.toLower :=
        List.mem_map.mpr ⟨c, hMem, toLower_delimiter hDelimiter⟩
      rw [isDelimiter_of_mem_loopback _ hName c hLower] at hDelimiter
      exact hDelimiter.symm
  have hAuthority : Uri.authority rest = name ++ tail.takeWhile (!Uri.isDelimiter ·) := by
    rw [hInner, hText, Uri.authority, List.takeWhile_append_of_pos hNameChars]
  have hRest : tail.takeWhile (!Uri.isDelimiter ·) = [] ∨
      ∃ port, tail.takeWhile (!Uri.isDelimiter ·) = ':' :: port := by
    rcases hTail with rfl | ⟨port, rfl⟩
    · exact .inl rfl
    · exact .inr ⟨_, List.takeWhile_cons_of_pos (by decide)⟩
  rw [Uri.host, Uri.withoutUserinfo_of_not_mem hNoUserinfo, hAuthority,
    loopback_withoutPort hName hRest, isLoopbackHost]
  exact List.contains_iff_mem.mpr hName

theorem namesLoopback_toLower {text : List Char} (h : NamesLoopback text) :
    NamesLoopback (text.map Char.toLower) := by
  obtain ⟨name, hName, hText⟩ := h
  have hSame : name.map Char.toLower = name := by
    simp only [loopbackNames, List.mem_cons, List.not_mem_nil, or_false] at hName
    rcases hName with rfl | rfl | rfl <;> rfl
  refine ⟨name, hName, ?_⟩
  rcases hText with rfl | ⟨port, rfl⟩
  · exact .inl hSame
  · exact .inr ⟨port.map Char.toLower, by rw [List.map_append, hSame]; rfl⟩

theorem scheme_append {name rest : List Char} (hColon : ':' ∉ name) :
    Uri.scheme (name ++ "://".toList ++ rest) = name := by
  have hAll : ∀ c ∈ name, (c != ':') = true :=
    fun c hMem => bne_iff_ne.mpr fun hEq => hColon (hEq ▸ hMem)
  rw [Uri.scheme, List.append_assoc, List.takeWhile_append_of_pos hAll]
  exact List.append_nil name

theorem afterScheme_append {endpoint : String} {name rest : List Char}
    (h : endpoint.toList = name ++ "://".toList ++ rest) (hColon : ':' ∉ name) :
    afterScheme endpoint = rest := by
  have hAll : ∀ c ∈ name, (c != ':') = true :=
    fun c hMem => bne_iff_ne.mpr fun hEq => hColon (hEq ▸ hMem)
  rw [afterScheme, h, List.append_assoc, List.dropWhile_append_of_pos hAll]
  rfl

/-- An endpoint whose test saw a loopback name: only a userinfo can hide another host. -/
theorem plainOnLoopback_iff {secure endpoint : String} {plain rest : List Char}
    {inAuthority : Char → Bool} (hRest : endpoint.toList = plain ++ "://".toList ++ rest)
    (hColon : ':' ∉ plain) (hPlain : plain ≠ secure.toList)
    (hWider : ∀ c, Uri.isDelimiter c = false → inAuthority c = true)
    (h : NamesLoopback ((rest.takeWhile inAuthority).map Char.toLower)) :
    PlainOnLoopback secure endpoint ↔ NoForeignUserinfo secure endpoint := by
  have hScheme : Uri.scheme endpoint.toList ≠ secure.toList := by
    rw [hRest, scheme_append hColon]
    exact hPlain
  rw [PlainOnLoopback, NoForeignUserinfo, or_iff_right hScheme, or_iff_right hScheme,
    afterScheme_append hRest hColon]
  constructor
  · intro hLoopback userinfo hostport hSplit hLast
    rwa [Uri.host, hSplit, Uri.withoutUserinfo_split userinfo hLast] at hLoopback
  · intro hForeign
    by_cases hUserinfo : '@' ∈ Uri.authority rest
    · obtain ⟨userinfo, hostport, hSplit, hLast⟩ := Uri.exists_userinfo hUserinfo
      rw [Uri.host, hSplit, Uri.withoutUserinfo_split userinfo hLast]
      exact hForeign userinfo hostport hSplit hLast
    · exact loopback_host hWider h hUserinfo

theorem plainOnLoopback_of_secure {secure endpoint : String}
    (h : startsWith endpoint (secure ++ "://") = true) (hColon : ':' ∉ secure.toList) :
    PlainOnLoopback secure endpoint ∧ NoForeignUserinfo secure endpoint := by
  obtain ⟨rest, hRest⟩ := startsWith_iff.mp h
  have hScheme : Uri.scheme endpoint.toList = secure.toList := by
    rw [hRest, String.toList_append, scheme_append hColon]
  exact ⟨.inl hScheme, .inl hScheme⟩

theorem validateEndpoint_loopback {endpoint message : String}
    (h : validateEndpoint endpoint message = .ok ()) :
    PlainOnLoopback "https" endpoint ↔ NoForeignUserinfo "https" endpoint := by
  rw [validateEndpoint, Checks.require_ok, Bool.or_eq_true] at h
  rcases h with hSecure | hLoopback
  · have hBoth : PlainOnLoopback "https" endpoint ∧ NoForeignUserinfo "https" endpoint :=
      plainOnLoopback_of_secure hSecure (by decide)
    exact iff_of_true hBoth.1 hBoth.2
  · rw [isLoopbackHttp] at hLoopback
    split at hLoopback
    case h_1 => cases hLoopback
    case h_2 rest hRest =>
      have hNames := namesLoopback_toLower (namesLoopback_of_test hLoopback)
      rw [String.toList_ofList] at hNames
      have hSplit : endpoint.toList = "http".toList ++ "://".toList ++ rest :=
        RustText.stripPrefix?_eq_some.mp hRest
      refine plainOnLoopback_iff hSplit (by decide) (by decide) ?_ hNames
      intro c hDelimiter
      rw [Uri.isDelimiter, Bool.or_eq_false_iff, Bool.or_eq_false_iff] at hDelimiter
      rw [bne, hDelimiter.1.1]
      rfl

end VoxType
