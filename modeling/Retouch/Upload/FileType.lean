import Retouch.Text.CaseMap

/-!
# Endings by file type

The ending that a file of a type gets if its name has none.
-/

namespace Retouch.Upload

/-- Types and their usual endings. -/
def endings : List (String × String) := [
  ("application/json", ".json"),
  ("application/manifest+json", ".webmanifest"),
  ("application/msword", ".doc"),
  ("application/n-quads", ".nq"),
  ("application/n-triples", ".nt"),
  ("application/octet-stream", ".bin"),
  ("application/oda", ".oda"),
  ("application/pdf", ".pdf"),
  ("application/pkcs7-mime", ".p7c"),
  ("application/postscript", ".ps"),
  ("application/trig", ".trig"),
  ("application/vnd.apple.mpegurl", ".m3u"),
  ("application/vnd.ms-excel", ".xls"),
  ("application/vnd.ms-powerpoint", ".ppt"),
  ("application/wasm", ".wasm"),
  ("application/x-bcpio", ".bcpio"),
  ("application/x-cpio", ".cpio"),
  ("application/x-csh", ".csh"),
  ("application/x-dvi", ".dvi"),
  ("application/x-gtar", ".gtar"),
  ("application/x-hdf", ".hdf"),
  ("application/x-hdf5", ".h5"),
  ("application/x-latex", ".latex"),
  ("application/x-mif", ".mif"),
  ("application/x-netcdf", ".cdf"),
  ("application/x-pkcs12", ".p12"),
  ("application/x-pn-realaudio", ".ram"),
  ("application/x-python-code", ".pyc"),
  ("application/x-sh", ".sh"),
  ("application/x-shar", ".shar"),
  ("application/x-shockwave-flash", ".swf"),
  ("application/x-sv4cpio", ".sv4cpio"),
  ("application/x-sv4crc", ".sv4crc"),
  ("application/x-tar", ".tar"),
  ("application/x-tcl", ".tcl"),
  ("application/x-tex", ".tex"),
  ("application/x-texinfo", ".texi"),
  ("application/x-troff", ".roff"),
  ("application/x-troff-man", ".man"),
  ("application/x-troff-me", ".me"),
  ("application/x-troff-ms", ".ms"),
  ("application/x-ustar", ".ustar"),
  ("application/x-wais-source", ".src"),
  ("application/xml", ".xsl"),
  ("application/zip", ".zip"),
  ("audio/3gpp", ".3gp"),
  ("audio/3gpp2", ".3g2"),
  ("audio/aac", ".aac"),
  ("audio/basic", ".au"),
  ("audio/mpeg", ".mp3"),
  ("audio/opus", ".opus"),
  ("audio/x-aiff", ".aif"),
  ("audio/x-pn-realaudio", ".ra"),
  ("audio/x-wav", ".wav"),
  ("image/avif", ".avif"),
  ("image/bmp", ".bmp"),
  ("image/gif", ".gif"),
  ("image/ief", ".ief"),
  ("image/jpeg", ".jpg"),
  ("image/heic", ".heic"),
  ("image/heif", ".heif"),
  ("image/png", ".png"),
  ("image/svg+xml", ".svg"),
  ("image/tiff", ".tiff"),
  ("image/vnd.microsoft.icon", ".ico"),
  ("image/webp", ".webp"),
  ("image/x-cmu-raster", ".ras"),
  ("image/x-portable-anymap", ".pnm"),
  ("image/x-portable-bitmap", ".pbm"),
  ("image/x-portable-graymap", ".pgm"),
  ("image/x-portable-pixmap", ".ppm"),
  ("image/x-rgb", ".rgb"),
  ("image/x-xbitmap", ".xbm"),
  ("image/x-xpixmap", ".xpm"),
  ("image/x-xwindowdump", ".xwd"),
  ("message/rfc822", ".eml"),
  ("text/css", ".css"),
  ("text/csv", ".csv"),
  ("text/html", ".html"),
  ("text/javascript", ".js"),
  ("text/n3", ".n3"),
  ("text/plain", ".txt"),
  ("text/richtext", ".rtx"),
  ("text/tab-separated-values", ".tsv"),
  ("text/vtt", ".vtt"),
  ("text/x-python", ".py"),
  ("text/x-setext", ".etx"),
  ("text/x-sgml", ".sgm"),
  ("text/x-vcard", ".vcf"),
  ("text/xml", ".xml"),
  ("video/mp4", ".mp4"),
  ("video/mpeg", ".mpeg"),
  ("video/quicktime", ".mov"),
  ("video/webm", ".webm"),
  ("video/x-msvideo", ".avi"),
  ("video/x-sgi-movie", ".movie")]

/-- The usual ending for a type, in any case; empty for an unknown one. -/
def endingFor (type : String) : String := (endings.lookup (String.ofList (Text.lower type.toList))).getD ""

end Retouch.Upload
