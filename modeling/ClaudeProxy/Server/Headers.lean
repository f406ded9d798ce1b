/-
Module: ClaudeProxy.Server.Headers
Layer: Model
Purpose: The headers of a request as they arrive, which are bytes, and which of them the proxy reads as
  text (`HeaderMap::get` and `HeaderValue::to_str`).
Trusted boundary: human-reviewed model
Main exports: HeaderValue, HeaderValue.toStr, RequestHeaders, RequestHeaders.toMap
-/
import ClaudeProxy.Auth

namespace ClaudeProxy

open Library

/-- The bytes that may stand in a value: no control characters, but for the tab. -/
def isHeaderByte (byte : UInt8) : Bool :=
  (32 ≤ byte && byte != 127) || byte == 9

/-- `is_visible_ascii`. -/
def isVisibleAscii (byte : UInt8) : Bool :=
  (32 ≤ byte && byte < 127) || byte == 9

structure HeaderValue where
  bytes : Bytes
  valid : bytes.all isHeaderByte = true

/-- The value as text, if all of it is visible ASCII. -/
def HeaderValue.toStr (value : HeaderValue) : Option String :=
  if value.bytes.all isVisibleAscii = true then fromUtf8 value.bytes else none

/-- The headers in order, by their names in lower case. -/
abbrev RequestHeaders := List (String × HeaderValue)

/-- The first value of a header. -/
def RequestHeaders.get (headers : RequestHeaders) (name : String) : Option HeaderValue :=
  (headers.find? (·.1 == name)).map Prod.snd

def RequestHeaders.toMap (headers : RequestHeaders) : HeaderMap :=
  fun name => (headers.get name).bind HeaderValue.toStr

end ClaudeProxy
