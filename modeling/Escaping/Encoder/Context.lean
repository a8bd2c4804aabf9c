import Escaping.Value

/-!
Output contexts. Each context has a codec for the text that lands in it, and the characters that
may stand raw there beside those the codec keeps anyway.
-/

namespace Escaping

/-- The contexts whose encoders take nothing but a text and never fail. -/
inductive Context where
  | html
  | htmlAttribute
  | css
  | javaScript
  | vbScript
  | xml
  | xmlAttribute
  | xPath
  | json
  | distinguishedName
deriving DecidableEq, Repr

namespace Context

def immune : Context → List CodePoint
  | .html | .xml | .xPath => [',', '.', '-', '_', ' ']
  | .htmlAttribute | .xmlAttribute => [',', '.', '-', '_']
  | .javaScript => [',', '.', '_']
  | .vbScript => [',', '.', '_', ' ']
  | .css | .json | .distinguishedName => []

def encode (context : Context) (text : Text) : Text :=
  match context with
  | .html | .htmlAttribute => Html.codec.encode context.immune text
  | .css => Css.codec.encode context.immune text
  | .javaScript => JavaScript.codec.encode context.immune text
  | .vbScript => VBScript.encode context.immune text
  | .xml => Xml.codec.encode context.immune text
  | .xmlAttribute => Xml.attributeCodec.encode context.immune text
  | .xPath => Html.xPathCodec.encode context.immune text
  | .json => Json.codec.encode context.immune text
  | .distinguishedName => Ldap.encodeName text

end Context

end Escaping
