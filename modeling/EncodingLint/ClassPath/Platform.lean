import EncodingLint.ClassPath.Resolution

/-!
# The classes of the platform

The part of the Java 8 class library that deals with encodings: strings, charsets, and the streams,
readers and writers, with the members that take or leave out a charset.
-/

set_option autoImplicit false

namespace EncodingLint

namespace TypeName

def file : TypeName := ⟨"java.io.File"⟩
def inputStream : TypeName := ⟨"java.io.InputStream"⟩
def outputStream : TypeName := ⟨"java.io.OutputStream"⟩
def ioException : TypeName := ⟨"java.io.IOException"⟩
def fileNotFound : TypeName := ⟨"java.io.FileNotFoundException"⟩
def closeable : TypeName := ⟨"java.io.Closeable"⟩
def flushable : TypeName := ⟨"java.io.Flushable"⟩
def appendable : TypeName := ⟨"java.lang.Appendable"⟩
def charArray : TypeName := ⟨"char[]"⟩
def intArray : TypeName := ⟨"int[]"⟩
def int : TypeName := ⟨"int"⟩
def boolean : TypeName := ⟨"boolean"⟩
def autoCloseable : TypeName := ⟨"java.lang.AutoCloseable"⟩
def readable : TypeName := ⟨"java.lang.Readable"⟩
def charSequence : TypeName := ⟨"java.lang.CharSequence"⟩
def comparable : TypeName := ⟨"java.lang.Comparable"⟩
def serializable : TypeName := ⟨"java.io.Serializable"⟩
def throwable : TypeName := ⟨"java.lang.Throwable"⟩
def exception : TypeName := ⟨"java.lang.Exception"⟩
def stringBuilder : TypeName := ⟨"java.lang.StringBuilder"⟩
def stringBuffer : TypeName := ⟨"java.lang.StringBuffer"⟩
def standardCharsets : TypeName := ⟨"java.nio.charset.StandardCharsets"⟩
def charsetDecoder : TypeName := ⟨"java.nio.charset.CharsetDecoder"⟩
def charsetEncoder : TypeName := ⟨"java.nio.charset.CharsetEncoder"⟩
def fileInputStream : TypeName := ⟨"java.io.FileInputStream"⟩
def byteArrayInputStream : TypeName := ⟨"java.io.ByteArrayInputStream"⟩
def fileOutputStream : TypeName := ⟨"java.io.FileOutputStream"⟩
def byteArrayOutputStream : TypeName := ⟨"java.io.ByteArrayOutputStream"⟩
def filterOutputStream : TypeName := ⟨"java.io.FilterOutputStream"⟩
def reader : TypeName := ⟨"java.io.Reader"⟩
def stringWriter : TypeName := ⟨"java.io.StringWriter"⟩
def fileReader : TypeName := ⟨"java.io.FileReader"⟩

end TypeName

namespace ClassPath

/-- A class with the given constructors, each by its parameters and exceptions, and methods. -/
def declare (name : TypeName) (superclass : Option TypeName) (interfaces : List TypeName)
    (constructors : List (List TypeName × List TypeName)) (methods : List Member) : ClassDecl where
  name := name
  superclass := superclass
  interfaces := interfaces
  constructors := constructors.map fun c => ⟨name.simpleName, c.1, c.2, false⟩
  methods := methods

/-- A method of an object. -/
def method (name : String) (parameters throws : List TypeName) : Member :=
  ⟨name, parameters, throws, false⟩

/-- A static method. -/
def static (name : String) (parameters throws : List TypeName) : Member :=
  ⟨name, parameters, throws, true⟩

/-- The declarations of the classes of the platform. -/
def platformClasses : List ClassDecl :=
  [declare .object none []
      [([], [])]
      [method "toString" [] [],
       method "hashCode" [] [],
       method "equals" [.object] []],
   declare .autoCloseable none [] [] [],
   declare .closeable none [.autoCloseable] [] [],
   declare .flushable none [] [] [],
   declare .appendable none [] [] [],
   declare .readable none [] [] [],
   declare .charSequence none [] [] [],
   declare .comparable none [] [] [],
   declare .serializable none [] [] [],
   declare .throwable (some .object) [] [] [],
   declare .exception (some .throwable) [] [] [],
   declare .ioException (some .exception) [] [] [],
   declare .fileNotFound (some .ioException) [] [] [],
   declare .unsupportedEncoding (some .ioException) [] [] [],
   declare .stringBuilder (some .object) [] [] [],
   declare .stringBuffer (some .object) [] [] [],
   declare .string (some .object) [.serializable, .comparable, .charSequence]
      [([], []),
       ([.string], []),
       ([.charArray], []),
       ([.charArray, .int, .int], []),
       ([.intArray, .int, .int], []),
       ([.byteArray, .int, .int, .int], []),
       ([.byteArray, .int], []),
       ([.byteArray, .int, .int, .string], [.unsupportedEncoding]),
       ([.byteArray, .int, .int, .charset], []),
       ([.byteArray, .string], [.unsupportedEncoding]),
       ([.byteArray, .charset], []),
       ([.byteArray, .int, .int], []),
       ([.byteArray], []),
       ([.stringBuffer], []),
       ([.stringBuilder], [])]
      [method "length" [] [],
       method "isEmpty" [] [],
       method "charAt" [.int] [],
       method "substring" [.int] [],
       method "getBytes" [.int, .int, .byteArray, .int] [],
       method "getBytes" [.string] [.unsupportedEncoding],
       method "getBytes" [.charset] [],
       method "getBytes" [] [],
       method "toString" [] [],
       static "valueOf" [.object] []],
   declare .charset (some .object) [.comparable] []
      [static "isSupported" [.string] [],
       static "forName" [.string] [],
       static "defaultCharset" [] [],
       method "name" [] [],
       method "newDecoder" [] [],
       method "newEncoder" [] []],
   declare .standardCharsets (some .object) [] [] [],
   declare .charsetDecoder (some .object) [] [] [],
   declare .charsetEncoder (some .object) [] [] [],
   declare .file (some .object) [.serializable, .comparable]
      [([.string], []),
       ([.string, .string], []),
       ([.file, .string], [])] [],
   declare .inputStream (some .object) [.closeable] []
      [method "read" [] [.ioException],
       method "close" [] [.ioException]],
   declare .fileInputStream (some .inputStream) []
      [([.string], [.fileNotFound]),
       ([.file], [.fileNotFound])] [],
   declare .byteArrayInputStream (some .inputStream) []
      [([.byteArray], [])] [],
   declare .outputStream (some .object) [.closeable, .flushable] []
      [method "write" [.int] [.ioException],
       method "write" [.byteArray] [.ioException],
       method "flush" [] [.ioException],
       method "close" [] [.ioException]],
   declare .fileOutputStream (some .outputStream) []
      [([.string], [.fileNotFound]),
       ([.string, .boolean], [.fileNotFound]),
       ([.file], [.fileNotFound]),
       ([.file, .boolean], [.fileNotFound])] [],
   declare .byteArrayOutputStream (some .outputStream) []
      [([], []),
       ([.int], [])]
      [method "toByteArray" [] [],
       method "toString" [] [],
       method "toString" [.string] [.unsupportedEncoding]],
   declare .filterOutputStream (some .outputStream) []
      [([.outputStream], [])] [],
   declare .reader (some .object) [.readable, .closeable] []
      [method "read" [] [.ioException],
       method "close" [] [.ioException]],
   declare .writer (some .object) [.appendable, .closeable, .flushable] []
      [method "write" [.int] [.ioException],
       method "write" [.string] [.ioException],
       method "flush" [] [.ioException],
       method "close" [] [.ioException]],
   declare .stringWriter (some .writer) []
      [([], [])] [],
   declare .inputStreamReader (some .reader) []
      [([.inputStream], []),
       ([.inputStream, .string], [.unsupportedEncoding]),
       ([.inputStream, .charset], []),
       ([.inputStream, .charsetDecoder], [])]
      [method "getEncoding" [] []],
   declare .outputStreamWriter (some .writer) []
      [([.outputStream, .string], [.unsupportedEncoding]),
       ([.outputStream], []),
       ([.outputStream, .charset], []),
       ([.outputStream, .charsetEncoder], [])]
      [method "getEncoding" [] []],
   declare .fileReader (some .inputStreamReader) []
      [([.string], [.fileNotFound]),
       ([.file], [.fileNotFound])] [],
   declare .fileWriter (some .outputStreamWriter) []
      [([.string], [.ioException]),
       ([.string, .boolean], [.ioException]),
       ([.file], [.ioException]),
       ([.file, .boolean], [.ioException])] [],
   declare .printStream (some .filterOutputStream) [.appendable, .closeable]
      [([.outputStream], []),
       ([.outputStream, .boolean], []),
       ([.outputStream, .boolean, .string], [.unsupportedEncoding]),
       ([.string], [.fileNotFound]),
       ([.string, .string], [.fileNotFound, .unsupportedEncoding]),
       ([.file], [.fileNotFound]),
       ([.file, .string], [.fileNotFound, .unsupportedEncoding])]
      [method "print" [.string] [],
       method "println" [.string] []],
   declare .printWriter (some .writer) []
      [([.writer], []),
       ([.writer, .boolean], []),
       ([.outputStream], []),
       ([.outputStream, .boolean], []),
       ([.string], [.fileNotFound]),
       ([.string, .string], [.fileNotFound, .unsupportedEncoding]),
       ([.file], [.fileNotFound]),
       ([.file, .string], [.fileNotFound, .unsupportedEncoding])]
      [method "print" [.string] [],
       method "println" [.string] []]]

/-- The class path that holds the classes of the platform only. -/
def platform : ClassPath where
  classes := platformClasses
  distinct := by decide +kernel

end ClassPath

end EncodingLint
