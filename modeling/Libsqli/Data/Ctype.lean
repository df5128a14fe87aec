import Libsqli.Data.Numeral

namespace Libsqli.Data.Ctype

open Libsqli.Data.Numeral (isDigit)

/-! Characters in the "C" locale, and texts without their terminator. -/

def newline : UInt8 := 10
def space : UInt8 := 32
def doubleQuote : UInt8 := 34
def singleQuote : UInt8 := 39
def plus : UInt8 := 43
def slash : UInt8 := 47
def colon : UInt8 := 58
def questionMark : UInt8 := 63

def octets (text : String) : List UInt8 :=
  text.toList.map fun char => UInt8.ofNat char.toNat

def isSpace (byte : UInt8) : Bool := byte == 32 || (9 ≤ byte && byte ≤ 13)

def isUpper (byte : UInt8) : Bool := 65 ≤ byte && byte ≤ 90

def isLower (byte : UInt8) : Bool := 97 ≤ byte && byte ≤ 122

def isAlpha (byte : UInt8) : Bool := isUpper byte || isLower byte

def isAlnum (byte : UInt8) : Bool := isAlpha byte || isDigit byte

def toUpper (byte : UInt8) : UInt8 := if isLower byte then byte - 32 else byte

def toLower (byte : UInt8) : UInt8 := if isUpper byte then byte + 32 else byte

end Libsqli.Data.Ctype
