namespace MarkdownOutline.Log

def rootName : String := "marktoc"

def loggerName (name : String) : String :=
  if name = rootName || (rootName ++ ".").isPrefixOf name then name else rootName ++ "." ++ name

end MarkdownOutline.Log
