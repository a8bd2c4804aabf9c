import Escaping.Codec.Css
import Escaping.Codec.Html
import Escaping.Codec.JavaScript
import Escaping.Codec.Json
import Escaping.Codec.Ldap
import Escaping.Codec.Percent
import Escaping.Codec.Shell
import Escaping.Codec.Sql
import Escaping.Codec.VBScript
import Escaping.Codec.Xml

/-!
The closed set of escaping schemes. Each has one codec, which settings and messages name.
-/

namespace Escaping

inductive Scheme where
  | html
  | percent
  | javaScript
  | vbScript
  | css
  | ldapFilter
  | ldapName
  | xml
  | xmlAttribute
  | xPath
  | json
  | posixShell
  | windowsShell
  | mySql
  | oracle
deriving DecidableEq, Repr

namespace Scheme

def all : List Scheme :=
  [.html, .percent, .javaScript, .vbScript, .css, .ldapFilter, .ldapName, .xml, .xmlAttribute,
    .xPath, .json, .posixShell, .windowsShell, .mySql, .oracle]

def codec : Scheme → Codec
  | .html => Html.codec
  | .percent => Percent.codec
  | .javaScript => JavaScript.codec
  | .vbScript => VBScript.codec
  | .css => Css.codec
  | .ldapFilter => Ldap.filterCodec
  | .ldapName => Ldap.nameCodec
  | .xml => Xml.codec
  | .xmlAttribute => Xml.attributeCodec
  | .xPath => Html.xPathCodec
  | .json => Json.codec
  | .posixShell => Shell.posix
  | .windowsShell => Shell.windows
  | .mySql => MySql.codec
  | .oracle => Oracle.codec

def name (scheme : Scheme) : Text := scheme.codec.name

def canDecode (scheme : Scheme) : Bool := scheme.codec.canDecode

def ofName? (name : Text) : Option Scheme := all.find? fun scheme => scheme.name = name

/-- The schemes that canonicalization reads unless told otherwise. The order decides which one
gets the first chance at each pass. -/
def defaults : List Scheme := [.html, .percent, .javaScript]

theorem mem_all (scheme : Scheme) : scheme ∈ all := by cases scheme <;> decide

theorem ofName?_name (scheme : Scheme) : ofName? scheme.name = some scheme := by
  cases scheme <;> decide

theorem name_injective {left right : Scheme} (equal : left.name = right.name) : left = right :=
  Option.some.inj (by rw [← ofName?_name left, equal, ofName?_name])

theorem canDecode_iff (scheme : Scheme) : scheme.canDecode = true ↔ scheme ≠ .vbScript := by
  cases scheme <;> decide

end Scheme

end Escaping
