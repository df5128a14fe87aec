import Libsqli.Uri.Query
import Libsqli.Uri.Decode

namespace Libsqli.Uri

open Libsqli.Data
open Libsqli.Data.Ctype
open Libsqli.Data.Span

/-! URIs put together from their parts. -/

inductive HostPart where
  | name (text : List UInt8)
  | bracketed (address : List UInt8)

namespace HostPart

def text : HostPart → List UInt8
  | name text => text
  | bracketed address => address

def shown : HostPart → List UInt8
  | name text => text
  | bracketed address => openBracket :: (address ++ [closeBracket])

end HostPart

/-- ALPHA *( ALPHA / DIGIT / "+" / "-" / "." ) -/
def SchemeSyntax (scheme : List UInt8) : Prop :=
  ∃ first rest, scheme = first :: rest ∧ isAlpha first = true ∧
    ∀ byte ∈ rest, isAlnum byte = true ∨ byte = 43 ∨ byte = 45 ∨ byte = 46

/-- None of the bytes occurs in the text. -/
def Lacks (bytes text : List UInt8) : Prop := ∀ byte ∈ text, byte ∉ bytes

instance (bytes text : List UInt8) : Decidable (Lacks bytes text) :=
  List.decidableBAll (fun byte => byte ∉ bytes) text

structure UriParts where
  scheme : List UInt8
  userinfo : Option (List UInt8)
  host : HostPart
  port : Option (List UInt8)
  path : Option (List UInt8)
  query : Option (List UInt8)
  fragment : Option (List UInt8)
  scheme_syntax : SchemeSyntax scheme
  userinfo_lacks : ∀ text, userinfo = some text →
    Lacks [atSign, slash, questionMark, hash] text
  name_lacks : ∀ text, host = .name text →
    Lacks [colon, atSign, slash, questionMark, hash, openBracket] text
  address_lacks : ∀ address, host = .bracketed address →
    Lacks [closeBracket] address
  port_lacks : ∀ text, port = some text → Lacks [slash, questionMark, hash] text
  path_lacks : ∀ text, path = some text →
    text.head? ≠ some slash ∧ Lacks [questionMark, hash] text
  query_lacks : ∀ text, query = some text → Lacks [hash] text

/-- An optional part behind its mark. -/
def marked (mark : UInt8) (part : Option (List UInt8)) : List UInt8 :=
  match part with
  | none => []
  | some text => mark :: text

namespace UriParts

variable (parts : UriParts)

def userinfoShown : List UInt8 :=
  match parts.userinfo with
  | none => []
  | some text => text ++ [atSign]

def hostPort : List UInt8 := parts.host.shown ++ marked colon parts.port

def authority : List UInt8 := parts.userinfoShown ++ parts.hostPort

def behindPath : List UInt8 :=
  marked questionMark parts.query ++ marked hash parts.fragment

def behindAuthority : List UInt8 := marked slash parts.path ++ parts.behindPath

def compose : List UInt8 :=
  parts.scheme ++ (schemeMark ++ (parts.authority ++ parts.behindAuthority))

/-- The components that were put together; the fragment is not one of them. -/
def components : UriComponents where
  scheme := parts.scheme
  userinfo := parts.userinfo.getD []
  host := parts.host.text
  port := parts.port.getD []
  path := parts.path.getD []
  query := parts.query.getD []

/-- A bracketed address does not end the authority, and the first at sign is the
one behind the user information. -/
structure Separable : Prop where
  address : ∀ address, parts.host = .bracketed address →
    Lacks [slash, questionMark, hash] address
  atSign : parts.userinfo = none →
    Lacks [atSign] parts.host.text ∧ Lacks [atSign] (parts.port.getD [])

end UriParts

variable {parts : UriParts} {text rest scheme bytes : List UInt8}

theorem Lacks.not_mem (hlacks : Lacks bytes text) {byte : UInt8}
    (hbyte : byte ∈ bytes) : byte ∉ text :=
  fun hmem => hlacks byte hmem hbyte

theorem Lacks.append (hleft : Lacks bytes text) (hright : Lacks bytes rest) :
    Lacks bytes (text ++ rest) := by
  intro byte hmem
  rcases List.mem_append.mp hmem with hmem | hmem
  · exact hleft byte hmem
  · exact hright byte hmem

theorem Lacks.cons {byte : UInt8} (hbyte : byte ∉ bytes)
    (hlacks : Lacks bytes text) : Lacks bytes (byte :: text) := by
  intro other hmem
  rcases List.mem_cons.mp hmem with rfl | hmem
  · exact hbyte
  · exact hlacks other hmem

theorem lacks_nil : Lacks bytes [] := by
  intro byte hmem
  cases hmem

theorem Lacks.fewer {other : List UInt8} (hlacks : Lacks bytes text)
    (hsubset : other ⊆ bytes) : Lacks other text :=
  fun byte hmem hother => hlacks byte hmem (hsubset hother)

theorem lacks_marked {mark : UInt8} {part : Option (List UInt8)}
    (hmark : mark ∉ bytes) (hpart : Lacks bytes (part.getD [])) :
    Lacks bytes (marked mark part) := by
  cases part with
  | none => exact lacks_nil
  | some text => exact hpart.cons hmark

theorem Lacks.inAuthority (hlacks : Lacks [slash, questionMark, hash] text) :
    ∀ byte ∈ text, inAuthority byte = true := by
  intro byte hmem
  have hnot := hlacks byte hmem
  simp only [List.mem_cons, List.not_mem_nil, or_false, not_or] at hnot
  simp [Uri.inAuthority, hnot]

theorem Lacks.inPath (hlacks : Lacks [questionMark, hash] text) :
    ∀ byte ∈ text, inPath byte = true := by
  intro byte hmem
  have hnot := hlacks byte hmem
  simp only [List.mem_cons, List.not_mem_nil, or_false, not_or] at hnot
  simp [Uri.inPath, hnot]

theorem Lacks.inQuery (hlacks : Lacks [hash] text) :
    ∀ byte ∈ text, inQuery byte = true := by
  intro byte hmem
  have hnot := hlacks byte hmem
  simp only [List.mem_cons, List.not_mem_nil, or_false] at hnot
  simp [Uri.inQuery, hnot]

/-! The scheme. -/

theorem SchemeSyntax.valid (hshape : SchemeSyntax scheme) :
    validScheme scheme = true := by
  obtain ⟨first, rest, rfl, hfirst, hrest⟩ := hshape
  rw [validScheme, hfirst, Bool.true_and, List.all_eq_true]
  intro byte hmem
  rcases hrest byte hmem with halnum | rfl | rfl | rfl
  · simp [schemeByte, halnum]
  · decide
  · decide
  · decide

theorem SchemeSyntax.lacks (hshape : SchemeSyntax scheme) :
    Lacks [colon] scheme := by
  obtain ⟨first, rest, rfl, hfirst, hrest⟩ := hshape
  refine Lacks.cons ?_ fun byte hmem hcolon => ?_
  · intro hcolon
    rw [List.mem_singleton.mp hcolon] at hfirst
    exact absurd hfirst (by decide)
  · have hbyte := hrest byte hmem
    rw [List.mem_singleton.mp hcolon] at hbyte
    exact absurd hbyte (by decide)

theorem atSchemeMark_eq (hlacks : Lacks [colon] scheme) (rest : List UInt8) :
    atSchemeMark (scheme ++ (schemeMark ++ rest)) = some (scheme, rest) := by
  induction scheme with
  | nil =>
      have hprefix : schemeMark <+: schemeMark ++ rest := List.prefix_append _ _
      rw [List.nil_append]
      exact if_pos hprefix
  | cons byte scheme ih =>
      have hbyte : byte ≠ colon := fun h =>
        hlacks byte List.mem_cons_self (List.mem_singleton.mpr h)
      have hprefix : ¬ schemeMark <+: byte :: (scheme ++ (schemeMark ++ rest)) :=
        fun h => hbyte (List.cons_prefix_cons.mp h).1.symm
      rw [List.cons_append, atSchemeMark, if_neg hprefix,
        ih fun other hmem => hlacks other (List.mem_cons_of_mem _ hmem)]
      rfl

/-! The authority. -/

theorem splitHostPort_name (hhead : text.head? ≠ some openBracket) :
    splitHostPort text =
      match cut colon text with
      | some (host, port) => some (host, port)
      | none => some (text, []) := by
  cases text with
  | nil => rfl
  | cons byte text =>
      rw [splitHostPort]
      exact if_neg fun h => hhead (congrArg some h)

theorem UriParts.splitHostPort_eq (parts : UriParts) :
    splitHostPort parts.hostPort =
      some (parts.host.text, parts.port.getD []) := by
  unfold UriParts.hostPort
  cases hhost : parts.host with
  | name text =>
      have hlacks := parts.name_lacks text hhost
      have hcolon : colon ∉ text := hlacks.not_mem (by decide)
      have hhead : (text ++ marked colon parts.port).head? ≠
          some openBracket := by
        cases text with
        | nil =>
            cases parts.port with
            | none => exact fun h => nomatch h
            | some port =>
                exact fun h => absurd (Option.some.inj h) (by decide)
        | cons byte text =>
            intro hbyte
            have hbracket := hlacks byte List.mem_cons_self
            rw [Option.some.inj hbyte] at hbracket
            exact hbracket (by decide)
      rw [HostPart.shown, splitHostPort_name hhead]
      cases hport : parts.port with
      | none => rw [marked, List.append_nil, cut_none hcolon]; rfl
      | some port => rw [marked, cut_exact hcolon]; rfl
  | bracketed address =>
      have hbracket : closeBracket ∉ address :=
        (parts.address_lacks address hhost).not_mem (by decide)
      rw [HostPart.shown, List.cons_append, List.append_assoc,
        List.singleton_append, splitHostPort, if_pos rfl, cut_exact hbracket,
        Option.map_some]
      cases parts.port with
      | none => rfl
      | some port => rfl

theorem UriParts.Separable.splitUserinfo (hseparable : parts.Separable) :
    splitUserinfo parts.authority =
      (parts.userinfo.getD [], parts.hostPort) := by
  unfold UriParts.authority UriParts.userinfoShown
  cases huser : parts.userinfo with
  | none =>
      obtain ⟨hhost, hport⟩ := hseparable.atSign huser
      have hshown : Lacks [Uri.atSign] parts.host.shown := by
        cases hname : parts.host with
        | name text =>
            rw [hname] at hhost
            exact hhost
        | bracketed address =>
            rw [hname] at hhost
            have hclose : closeBracket ∉ [Uri.atSign] := by decide
            have hopen : openBracket ∉ [Uri.atSign] := by decide
            exact (hhost.append (lacks_nil.cons hclose)).cons hopen
      have hmarked := lacks_marked (by decide : colon ∉ [Uri.atSign]) hport
      have hmissing := (hshown.append hmarked).not_mem
        (List.mem_singleton_self Uri.atSign)
      rw [List.nil_append, Uri.splitUserinfo, UriParts.hostPort,
        cut_none hmissing]
      rfl
  | some text =>
      have hmissing : Uri.atSign ∉ text :=
        (parts.userinfo_lacks text huser).not_mem (by decide)
      rw [List.append_assoc, List.singleton_append, Uri.splitUserinfo,
        cut_exact hmissing]
      rfl

theorem UriParts.Separable.authority_inside (hseparable : parts.Separable) :
    ∀ byte ∈ parts.authority, inAuthority byte = true := by
  have huser : Lacks [slash, questionMark, hash] parts.userinfoShown := by
    unfold UriParts.userinfoShown
    cases huser : parts.userinfo with
    | none => exact lacks_nil
    | some text =>
        exact ((parts.userinfo_lacks text huser).fewer (by decide)).append
          (lacks_nil.cons (by decide))
  have hhost : Lacks [slash, questionMark, hash] parts.host.shown := by
    cases hhost : parts.host with
    | name text => exact (parts.name_lacks text hhost).fewer (by decide)
    | bracketed address =>
        exact ((hseparable.address address hhost).append
          (lacks_nil.cons (by decide))).cons (by decide)
  have hport : Lacks [slash, questionMark, hash] (parts.port.getD []) := by
    cases hport : parts.port with
    | none => exact lacks_nil
    | some text => exact parts.port_lacks text hport
  exact (huser.append (hhost.append (lacks_marked (by decide) hport))).inAuthority

theorem UriParts.behindAuthority_ends (parts : UriParts) :
    Ends inAuthority parts.behindAuthority := by
  unfold UriParts.behindAuthority UriParts.behindPath
  cases parts.path with
  | some path => exact ends_cons (by decide)
  | none =>
      cases parts.query with
      | some query => exact ends_cons (by decide)
      | none =>
          cases parts.fragment with
          | some fragment => exact ends_cons (by decide)
          | none => exact ends_nil

/-! Path and query. -/

theorem UriParts.behindPath_ends (parts : UriParts) :
    Ends inPath parts.behindPath ∧
      Ends (fun byte => byte == slash) parts.behindPath := by
  unfold UriParts.behindPath
  cases parts.query with
  | some query => exact ⟨ends_cons (by decide), ends_cons (by decide)⟩
  | none =>
      cases parts.fragment with
      | some fragment => exact ⟨ends_cons (by decide), ends_cons (by decide)⟩
      | none => exact ⟨ends_nil, ends_nil⟩

theorem UriParts.splitPath_eq (parts : UriParts) :
    splitPath parts.behindAuthority =
      (parts.path.getD [], parts.behindPath) := by
  obtain ⟨hpath, hslash⟩ := parts.behindPath_ends
  unfold UriParts.behindAuthority
  cases hpart : parts.path with
  | none =>
      have hhead : parts.behindPath.head? ≠ some slash := fun h =>
        absurd (hslash slash h) (by decide)
      rw [marked, List.nil_append, splitPath, if_neg hhead]
      rfl
  | some path =>
      obtain ⟨hfirst, hlacks⟩ := parts.path_lacks path hpart
      have hends : Ends (fun byte => byte == slash) (path ++ parts.behindPath) := by
        cases path with
        | nil => exact hslash
        | cons byte path =>
            refine ends_cons ?_
            rw [beq_eq_false_iff_ne]
            exact fun h => hfirst (congrArg some h)
      have hfront : ∀ byte ∈ [slash], (byte == slash) = true :=
        List.forall_mem_singleton.mpr rfl
      have hdrop : (slash :: (path ++ parts.behindPath)).dropWhile
          (fun byte => byte == slash) = path ++ parts.behindPath :=
        dropWhile_exact hfront hends
      have hhead : (slash :: (path ++ parts.behindPath)).head? = some slash :=
        rfl
      rw [marked, List.cons_append, splitPath, if_pos hhead]
      dsimp only
      rw [hdrop, takeWhile_exact hlacks.inPath hpath,
        dropWhile_exact hlacks.inPath hpath]
      rfl

theorem UriParts.queryOf_eq (parts : UriParts) :
    queryOf parts.behindPath = parts.query.getD [] := by
  unfold UriParts.behindPath
  have hfragment : Ends inQuery (marked hash parts.fragment) := by
    cases parts.fragment with
    | some fragment => exact ends_cons (by decide)
    | none => exact ends_nil
  cases hquery : parts.query with
  | some query =>
      rw [marked, List.cons_append, queryOf, if_pos rfl,
        takeWhile_exact (parts.query_lacks query hquery).inQuery hfragment]
      rfl
  | none =>
      cases parts.fragment with
      | some fragment => rfl
      | none => rfl

theorem parse_compose (hseparable : parts.Separable) :
    parseUriComponents (some parts.compose) = some parts.components := by
  have hmark := atSchemeMark_eq parts.scheme_syntax.lacks
    (parts.authority ++ parts.behindAuthority)
  have hvalid := parts.scheme_syntax.valid
  have hinside := hseparable.authority_inside
  have hends := parts.behindAuthority_ends
  simp only [parseUriComponents, UriParts.compose, Option.bind_eq_bind,
    Option.bind_some, hmark, hvalid, Bool.true_eq_false, if_false,
    takeWhile_exact hinside hends, dropWhile_exact hinside hends,
    hseparable.splitUserinfo, parts.splitHostPort_eq, parts.splitPath_eq,
    parts.queryOf_eq]
  rfl

theorem uri_round_trip :
    (∀ parts : UriParts, parts.Separable →
      parseUriComponents (some parts.compose) = some parts.components) ∧
    (∀ (encoding : Percent.Encoding) (text dst : List UInt8), 0 ∉ text →
      text.length < dst.length →
      ∃ out, urlDecode (some (encoding.encode text)) (some dst) =
        some (some out) ∧ held out = text) ∧
    ∀ (src : Option (List UInt8)) (dst : List UInt8),
      ∃ out, urlDecode src (some dst) = some (some out) ∧
        out.length = dst.length ∧ (dst ≠ [] → 0 ∈ out) :=
  ⟨fun _ => parse_compose, fun encoding _ _ => urlDecode_encode encoding,
    urlDecode_inside⟩

/-- "s://u@[::1]:9/d?q#f" -/
def everyPart : UriParts where
  scheme := octets "s"
  userinfo := some (octets "u")
  host := .bracketed (octets "::1")
  port := some (octets "9")
  path := some (octets "d")
  query := some (octets "q")
  fragment := some (octets "f")
  scheme_syntax := ⟨_, [], rfl, by decide, fun _ hmem => nomatch hmem⟩
  userinfo_lacks := fun text h => by
    cases h
    decide
  name_lacks := fun _ h => nomatch h
  address_lacks := fun address h => by
    cases h
    decide
  port_lacks := fun text h => by
    cases h
    decide
  path_lacks := fun text h => by
    cases h
    decide
  query_lacks := fun text h => by
    cases h
    decide

theorem uri_round_trip_every_part :
    parseUriComponents (some (octets "s://u@[::1]:9/d?q#f")) =
      some ⟨octets "s", octets "u", octets "::1", octets "9", octets "d",
        octets "q"⟩ := by
  have hseparable : everyPart.Separable :=
    ⟨fun address h => by
      cases h
      decide, fun h => nomatch h⟩
  have hcomposed : everyPart.compose = octets "s://u@[::1]:9/d?q#f" := by
    decide
  have hparsed := uri_round_trip.1 everyPart hseparable
  rw [hcomposed] at hparsed
  exact hparsed

/-- "s://[a/b]" -/
def slashInside : UriParts where
  scheme := octets "s"
  userinfo := none
  host := .bracketed (octets "a/b")
  port := none
  path := none
  query := none
  fragment := none
  scheme_syntax := ⟨_, [], rfl, by decide, fun _ hmem => nomatch hmem⟩
  userinfo_lacks := fun _ h => nomatch h
  name_lacks := fun _ h => nomatch h
  address_lacks := fun address h => by
    cases h
    decide
  port_lacks := fun _ h => nomatch h
  path_lacks := fun _ h => nomatch h
  query_lacks := fun _ h => nomatch h

theorem slashInside_refused :
    parseUriComponents (some slashInside.compose) = none ∧
      ¬ ∀ parts : UriParts,
        parseUriComponents (some parts.compose) = some parts.components := by
  have hrefused : parseUriComponents (some slashInside.compose) = none := by
    decide
  refine ⟨hrefused, fun hall => ?_⟩
  rw [hall slashInside] at hrefused
  cases hrefused

end Libsqli.Uri
