import Std.Data.HashMap
import OpenDocs.Text.CodePoints

/-!
# Compatibility forms of identifiers

Code points that are only other ways to write the same letters are taken apart, marks are put in
their canonical order, and what has a composed form is composed again. The tables are counted from
the blank, as no control is part of an identifier.
-/

namespace OpenDocs.Text

/-- The numbers behind a key: a row of keys by gaps, each with its numbers. All are counted from
`base`. -/
def keyed (base : Nat) (rows : List String) : List (Nat × List Nat) :=
  ((wordsOf rows).foldl (fun (last, done) w =>
    let key := last + hexNat (w.takeWhile (· != '='))
    let numbers := ((w.dropWhile (· != '=')).drop 1).splitBy fun a b => a != '.' && b != '.'
    (key, (key, (numbers.filter (· != ['.'])).map (base + hexNat ·)) :: done)) (base, [])).2

/-- Code points of identifiers, each with what it is taken apart into. -/
def partsRows : List String :=
  ["8a=41 b=39c 5=4f 6=21.2e0 1=21.2e1 1=21.2e2 1=21.2e3 1=21.2e8 1=21.2ea 2=23.307 1=25.2e0",
   "1=25.2e1 1=25.2e2 1=25.2e8 1=29.2e0 1=29.2e1 1=29.2e2 1=29.2e8 2=2e.2e3 1=2f.2e0 1=2f.2e1",
   "1=2f.2e2 1=2f.2e3 1=2f.2e8 3=35.2e0 1=35.2e1 1=35.2e2 1=35.2e8 1=39.2e1 3=41.2e0 1=41.2e1",
   "1=41.2e2 1=41.2e3 1=41.2e8 1=41.2ea 2=43.307 1=45.2e0 1=45.2e1 1=45.2e2 1=45.2e8 1=49.2e0",
   "1=49.2e1 1=49.2e2 1=49.2e8 2=4e.2e3 1=4f.2e0 1=4f.2e1 1=4f.2e2 1=4f.2e3 1=4f.2e8 3=55.2e0",
   "1=55.2e1 1=55.2e2 1=55.2e8 1=59.2e1 2=59.2e8 1=21.2e4 1=41.2e4 1=21.2e6 1=41.2e6 1=21.308",
   "1=41.308 1=23.2e1 1=43.2e1 1=23.2e2 1=43.2e2 1=23.2e7 1=43.2e7 1=23.2ec 1=43.2ec 1=24.2ec",
   "1=44.2ec 3=25.2e4 1=45.2e4 1=25.2e6 1=45.2e6 1=25.2e7 1=45.2e7 1=25.308 1=45.308 1=25.2ec",
   "1=45.2ec 1=27.2e2 1=47.2e2 1=27.2e6 1=47.2e6 1=27.2e7 1=47.2e7 1=27.307 1=47.307 1=28.2e2",
   "1=48.2e2 3=29.2e3 1=49.2e3 1=29.2e4 1=49.2e4 1=29.2e6 1=49.2e6 1=29.308 1=49.308 1=29.2e7",
   "2=29.2a 1=49.4a 1=2a.2e2 1=4a.2e2 1=2b.307 1=4b.307 2=2c.2e1 1=4c.2e1 1=2c.307 1=4c.307",
   "1=2c.2ec 1=4c.2ec 1=2c.97 1=4c.97 3=2e.2e1 1=4e.2e1 1=2e.307 1=4e.307 1=2e.2ec 1=4e.2ec",
   "1=29c.4e 3=2f.2e4 1=4f.2e4 1=2f.2e6 1=4f.2e6 1=2f.2eb 1=4f.2eb 3=32.2e1 1=52.2e1 1=32.307",
   "1=52.307 1=32.2ec 1=52.2ec 1=33.2e1 1=53.2e1 1=33.2e2 1=53.2e2 1=33.307 1=53.307 1=33.2ec",
   "1=53.2ec 1=34.307 1=54.307 1=34.2ec 1=54.2ec 3=35.2e3 1=55.2e3 1=35.2e4 1=55.2e4 1=35.2e6",
   "1=55.2e6 1=35.2ea 1=55.2ea 1=35.2eb 1=55.2eb 1=35.308 1=55.308 1=37.2e2 1=57.2e2 1=39.2e2",
   "1=59.2e2 1=39.2e8 1=3a.2e1 1=5a.2e1 1=3a.2e7 1=5a.2e7 1=3a.2ec 1=5a.2ec 1=53 21=2f.2fb",
   "1=4f.2fb e=35.2fb 1=55.2fb 14=24.3a.2ec 1=24.5a.2ec 1=44.5a.2ec 1=2c.2a 1=2c.4a 1=4c.4a",
   "1=2e.2a 1=2e.4a 1=4e.4a 1=21.2ec 1=41.2ec 1=29.2ec 1=49.2ec 1=2f.2ec 1=4f.2ec 1=35.2ec",
   "1=55.2ec 1=35.2e8.2e4 1=55.2e8.2e4 1=35.2e8.2e1 1=55.2e8.2e1 1=35.2e8.2ec 1=55.2e8.2ec",
   "1=35.2e8.2e0 1=55.2e8.2e0 2=21.2e8.2e4 1=41.2e8.2e4 1=21.2e7.2e4 1=41.2e7.2e4 1=a6.2e4",
   "1=c6.2e4 3=27.2ec 1=47.2ec 1=2b.2ec 1=4b.2ec 1=2f.308 1=4f.308 1=2f.308.2e4 1=4f.308.2e4",
   "1=197.2ec 1=272.2ec 1=4a.2ec 1=24.3a 1=24.5a 1=44.5a 1=27.2e1 1=47.2e1 3=2e.2e0 1=4e.2e0",
   "1=21.2ea.2e1 1=41.2ea.2e1 1=a6.2e1 1=c6.2e1 1=b8.2e1 1=d8.2e1 1=21.2ef 1=41.2ef 1=21.2f1",
   "1=41.2f1 1=25.2ef 1=45.2ef 1=25.2f1 1=45.2f1 1=29.2ef 1=49.2ef 1=29.2f1 1=49.2f1 1=2f.2ef",
   "1=4f.2ef 1=2f.2f1 1=4f.2f1 1=32.2ef 1=52.2ef 1=32.2f1 1=52.2f1 1=35.2ef 1=55.2ef 1=35.2f1",
   "1=55.2f1 1=33.306 1=53.306 1=34.306 1=54.306 3=28.2ec 1=48.2ec 7=21.2e7 1=41.2e7 1=25.307",
   "1=45.307 1=2f.2e8.2e4 1=4f.2e8.2e4 1=2f.2e3.2e4 1=4f.2e3.2e4 1=2f.2e7 1=4f.2e7 1=2f.2e7.2e4",
   "1=4f.2e7.2e4 1=39.2e4 1=59.2e4 7d=48 1=246 1=4a 1=52 1=259 1=25b 1=261 1=57 1=59 28=243",
   "1=4c 1=53 1=58 1=275 5c=2e0 1=2e1 2=2f3 1=2e8.2e1 30=299 12=371.2e1 1=97 1=375.2e1",
   "1=377.2e1 1=379.2e1 2=37f.2e1 2=385.2e1 1=389.2e1 1=399.2e8.2e1 1a=379.2e8 1=385.2e8",
   "1=391.2e1 1=395.2e1 1=397.2e1 1=399.2e1 1=3a5.2e8.2e1 1a=399.2e8 1=3a5.2e8 1=39f.2e1",
   "1=3a5.2e1 1=3a9.2e1 2=392 1=398 1=385 1=385.2e1 1=385.2e8 1=3a6 1=3a0 1a=39a 1=3a1 1=3a2",
   "2=378 1=395 4=383 7=3f5.2e0 1=3f5.2e8 2=3f3.2e1 4=3e6.2e8 5=3fa.2e1 1=3f8.2e0 1=403.2e6",
   "b=3f8.2e6 20=418.2e6 17=415.2e0 1=415.2e8 2=413.2e1 4=436.2e8 5=41a.2e1 1=418.2e0 1=423.2e6",
   "18=454.2ef 1=455.2ef 4a=3f6.2e6 1=416.2e6 e=3f0.2e6 1=410.2e6 1=3f0.2e8 1=410.2e8 3=3f5.2e6",
   "1=415.2e6 3=4b8.2e8 1=4b9.2e8 1=3f6.2e8 1=416.2e8 1=3f7.2e8 1=417.2e8 3=3f8.2e4 1=418.2e4",
   "1=3f8.2e8 1=418.2e8 1=3fe.2e8 1=41e.2e8 3=4c8.2e8 1=4c9.2e8 1=40d.2e8 1=42d.2e8 1=403.2e4",
   "1=423.2e4 1=403.2e8 1=423.2e8 1=403.2eb 1=423.2eb 1=407.2e8 1=427.2e8 3=40b.2e8 1=42b.2e8",
   "8e=545.562 9b=607.633 1=607.634 1=628.634 1=607.635 1=62a.634 4f=607.654 1=628.654",
   "1=6a7.654 1=62a.654 48=6b5.634 2=6a1.634 11=6b2.634 256=908.91c 8=910.91c 3=913.91c",
   "24=8f5.91c 1=8f6.91c 1=8f7.91c 1=8fc.91c 1=901.91c 1=902.91c 1=90b.91c 1=90f.91c 6c=9a7.99e",
   "1=9a7.9b7 10=981.99c 1=982.99c 2=98f.99c 54=a12.a1c 3=a18.a1c 23=9f6.a1c 1=9f7.a1c",
   "1=9fc.a1c 3=a0b.a1c ea=b27.b36 3=b27.b1e 1=b27.b37 10=b01.b1c 1=b02.b1c 37=b72.bb7",
   "36=ba6.b9e 1=ba7.b9e 1=ba6.bb7 7c=c26.c36 78=c9f.cb5 7=ca6.cb5 1=ca6.cb6 2=ca6.ca2",
   "1=ca6.ca2.cb5 7f=d26.d1e 1=d27.d1e 1=d26.d37 8e=db9.daa 2=db9.daf 1=db9.daf.daa 1=db9.dbf",
   "55=e2d.e12 80=ead.e92 29=e8b.e79 1=e8b.e81 66=f22.f97 a=f2c.f97 5=f31.f97 5=f36.f97",
   "5=f3b.f97 d=f20.f95 a=f51.f52 2=f51.f54 1=f92.f60 1=f92.f51.f60 1=f93.f60 1=f93.f51.f60",
   "8=f51.f60 12=f72.f97 a=f7c.f97 5=f81.f97 5=f86.f97 5=f8b.f97 d=f70.f95 6d=1005.100e d6=10bc",
   "a0a=1ae5.1b15 2=1ae7.1b15 2=1ae9.1b15 2=1aeb.1b15 2=1aed.1b15 4=1af1.1b15 29=1b1a.1b15",
   "2=1b1c.1b15 3=1b1e.1b15 1=1b1f.1b15 2=1b22.1b15 1e9=21 1=a6 1=22 2=24 1=25 1=16e 1=27 1=28",
   "1=29 1=2a 1=2b 1=2c 1=2d 1=2e 2=2f 1=202 1=30 1=32 1=34 1=35 1=37 1=41 1=230 1=231 1=1ce2",
   "1=42 1=44 1=45 1=239 1=23b 1=23c 1=47 2=4b 1=4d 1=12b 1=4f 1=234 1=1cf6 1=1cf7 1=50 1=54",
   "1=55 1=1cfd 1=24f 1=56 1=1d05 1=392 1=393 1=394 1=3a6 1=3a7 1=49 1=52 1=55 1=56 1=392 1=393",
   "1=3a1 1=3a6 1=3a7 e=41d 23=232 1=43 1=235 1=d0 1=23c 1=46 1=23f 1=241 1=245 1=248 1=249",
   "1=24a 1=1d5b 1=27d 1=24d 1=1d65 1=27f 1=251 1=250 1=252 1=253 1=254 1=255 1=258 1=262 1=263",
   "1=18b 1=269 1=26a 1=1cfc 1=26b 1=26c 1=5a 1=270 1=271 1=272 1=398 41=21.305 1=41.305",
   "1=22.2e7 1=42.2e7 1=22.303 1=42.303 1=22.311 1=42.311 1=23.307.2e1 1=43.307.2e1 1=24.2e7",
   "1=44.2e7 1=24.303 1=44.303 1=24.311 1=44.311 1=24.307 1=44.307 1=24.30d 1=44.30d",
   "1=25.2e4.2e0 1=45.2e4.2e0 1=25.2e4.2e1 1=45.2e4.2e1 1=25.30d 1=45.30d 1=25.310 1=45.310",
   "1=25.307.2e6 1=45.307.2e6 1=26.2e7 1=46.2e7 1=27.2e4 1=47.2e4 1=28.2e7 1=48.2e7 1=28.303",
   "1=48.303 1=28.2e8 1=48.2e8 1=28.307 1=48.307 1=28.30e 1=48.30e 1=29.310 1=49.310",
   "1=29.2e8.2e1 1=49.2e8.2e1 1=2b.2e1 1=4b.2e1 1=2b.303 1=4b.303 1=2b.311 1=4b.311 1=2c.303",
   "1=4c.303 1=2c.303.2e4 1=4c.303.2e4 1=2c.311 1=4c.311 1=2c.30d 1=4c.30d 1=2d.2e1 1=4d.2e1",
   "1=2d.2e7 1=4d.2e7 1=2d.303 1=4d.303 1=2e.2e7 1=4e.2e7 1=2e.303 1=4e.303 1=2e.311 1=4e.311",
   "1=2e.30d 1=4e.30d 1=2f.2e3.2e1 1=4f.2e3.2e1 1=2f.2e3.2e8 1=4f.2e3.2e8 1=2f.2e4.2e0",
   "1=4f.2e4.2e0 1=2f.2e4.2e1 1=4f.2e4.2e1 1=30.2e1 1=50.2e1 1=30.2e7 1=50.2e7 1=32.2e7",
   "1=52.2e7 1=32.303 1=52.303 1=32.303.2e4 1=52.303.2e4 1=32.311 1=52.311 1=33.2e7 1=53.2e7",
   "1=33.303 1=53.303 1=33.2e1.2e7 1=53.2e1.2e7 1=33.2ec.2e7 1=53.2ec.2e7 1=33.303.2e7",
   "1=53.303.2e7 1=34.2e7 1=54.2e7 1=34.303 1=54.303 1=34.311 1=54.311 1=34.30d 1=54.30d",
   "1=35.304 1=55.304 1=35.310 1=55.310 1=35.30d 1=55.30d 1=35.2e3.2e1 1=55.2e3.2e1",
   "1=35.2e4.2e8 1=55.2e4.2e8 1=36.2e3 1=56.2e3 1=36.303 1=56.303 1=37.2e0 1=57.2e0 1=37.2e1",
   "1=57.2e1 1=37.2e8 1=57.2e8 1=37.2e7 1=57.2e7 1=37.303 1=57.303 1=38.2e7 1=58.2e7 1=38.2e8",
   "1=58.2e8 1=39.2e7 1=59.2e7 1=3a.2e2 1=5a.2e2 1=3a.303 1=5a.303 1=3a.311 1=5a.311 1=48.311",
   "1=54.2e8 1=57.2ea 1=59.2ea 1=41.29e 1=53.2e7 5=21.303 1=41.303 1=21.2e9 1=41.2e9",
   "1=21.2e2.2e1 1=41.2e2.2e1 1=21.2e2.2e0 1=41.2e2.2e0 1=21.2e2.2e9 1=41.2e2.2e9 1=21.2e2.2e3",
   "1=41.2e2.2e3 1=21.303.2e2 1=41.303.2e2 1=21.2e6.2e1 1=41.2e6.2e1 1=21.2e6.2e0 1=41.2e6.2e0",
   "1=21.2e6.2e9 1=41.2e6.2e9 1=21.2e6.2e3 1=41.2e6.2e3 1=21.303.2e6 1=41.303.2e6 1=25.303",
   "1=45.303 1=25.2e9 1=45.2e9 1=25.2e3 1=45.2e3 1=25.2e2.2e1 1=45.2e2.2e1 1=25.2e2.2e0",
   "1=45.2e2.2e0 1=25.2e2.2e9 1=45.2e2.2e9 1=25.2e2.2e3 1=45.2e2.2e3 1=25.303.2e2 1=45.303.2e2",
   "1=29.2e9 1=49.2e9 1=29.303 1=49.303 1=2f.303 1=4f.303 1=2f.2e9 1=4f.2e9 1=2f.2e2.2e1",
   "1=4f.2e2.2e1 1=2f.2e2.2e0 1=4f.2e2.2e0 1=2f.2e2.2e9 1=4f.2e2.2e9 1=2f.2e2.2e3 1=4f.2e2.2e3",
   "1=2f.303.2e2 1=4f.303.2e2 1=2f.2fb.2e1 1=4f.2fb.2e1 1=2f.2fb.2e0 1=4f.2fb.2e0 1=2f.2fb.2e9",
   "1=4f.2fb.2e9 1=2f.2fb.2e3 1=4f.2fb.2e3 1=2f.2fb.303 1=4f.2fb.303 1=35.303 1=55.303 1=35.2e9",
   "1=55.2e9 1=35.2fb.2e1 1=55.2fb.2e1 1=35.2fb.2e0 1=55.2fb.2e0 1=35.2fb.2e9 1=55.2fb.2e9",
   "1=35.2fb.2e3 1=55.2fb.2e3 1=35.2fb.303 1=55.2fb.303 1=39.2e0 1=59.2e0 1=39.303 1=59.303",
   "1=39.2e9 1=59.2e9 1=39.2e3 1=59.2e3 7=391.2f3 1=391.2f4 1=391.2f3.2e0 1=391.2f4.2e0",
   "1=391.2f3.2e1 1=391.2f4.2e1 1=391.2f3.322 1=391.2f4.322 1=371.2f3 1=371.2f4 1=371.2f3.2e0",
   "1=371.2f4.2e0 1=371.2f3.2e1 1=371.2f4.2e1 1=371.2f3.322 1=371.2f4.322 1=395.2f3 1=395.2f4",
   "1=395.2f3.2e0 1=395.2f4.2e0 1=395.2f3.2e1 1=395.2f4.2e1 3=375.2f3 1=375.2f4 1=375.2f3.2e0",
   "1=375.2f4.2e0 1=375.2f3.2e1 1=375.2f4.2e1 3=397.2f3 1=397.2f4 1=397.2f3.2e0 1=397.2f4.2e0",
   "1=397.2f3.2e1 1=397.2f4.2e1 1=397.2f3.322 1=397.2f4.322 1=377.2f3 1=377.2f4 1=377.2f3.2e0",
   "1=377.2f4.2e0 1=377.2f3.2e1 1=377.2f4.2e1 1=377.2f3.322 1=377.2f4.322 1=399.2f3 1=399.2f4",
   "1=399.2f3.2e0 1=399.2f4.2e0 1=399.2f3.2e1 1=399.2f4.2e1 1=399.2f3.322 1=399.2f4.322",
   "1=379.2f3 1=379.2f4 1=379.2f3.2e0 1=379.2f4.2e0 1=379.2f3.2e1 1=379.2f4.2e1 1=379.2f3.322",
   "1=379.2f4.322 1=39f.2f3 1=39f.2f4 1=39f.2f3.2e0 1=39f.2f4.2e0 1=39f.2f3.2e1 1=39f.2f4.2e1",
   "3=37f.2f3 1=37f.2f4 1=37f.2f3.2e0 1=37f.2f4.2e0 1=37f.2f3.2e1 1=37f.2f4.2e1 3=3a5.2f3",
   "1=3a5.2f4 1=3a5.2f3.2e0 1=3a5.2f4.2e0 1=3a5.2f3.2e1 1=3a5.2f4.2e1 1=3a5.2f3.322",
   "1=3a5.2f4.322 2=385.2f4 2=385.2f4.2e0 2=385.2f4.2e1 2=385.2f4.322 1=3a9.2f3 1=3a9.2f4",
   "1=3a9.2f3.2e0 1=3a9.2f4.2e0 1=3a9.2f3.2e1 1=3a9.2f4.2e1 1=3a9.2f3.322 1=3a9.2f4.322",
   "1=389.2f3 1=389.2f4 1=389.2f3.2e0 1=389.2f4.2e0 1=389.2f3.2e1 1=389.2f4.2e1 1=389.2f3.322",
   "1=389.2f4.322 1=391.2e0 1=391.2e1 1=395.2e0 1=395.2e1 1=397.2e0 1=397.2e1 1=399.2e0",
   "1=399.2e1 1=39f.2e0 1=39f.2e1 1=3a5.2e0 1=3a5.2e1 1=3a9.2e0 1=3a9.2e1 3=391.2f3.325",
   "1=391.2f4.325 1=391.2f3.2e0.325 1=391.2f4.2e0.325 1=391.2f3.2e1.325 1=391.2f4.2e1.325",
   "1=391.2f3.322.325 1=391.2f4.322.325 1=371.2f3.325 1=371.2f4.325 1=371.2f3.2e0.325",
   "1=371.2f4.2e0.325 1=371.2f3.2e1.325 1=371.2f4.2e1.325 1=371.2f3.322.325 1=371.2f4.322.325",
   "1=397.2f3.325 1=397.2f4.325 1=397.2f3.2e0.325 1=397.2f4.2e0.325 1=397.2f3.2e1.325",
   "1=397.2f4.2e1.325 1=397.2f3.322.325 1=397.2f4.322.325 1=377.2f3.325 1=377.2f4.325",
   "1=377.2f3.2e0.325 1=377.2f4.2e0.325 1=377.2f3.2e1.325 1=377.2f4.2e1.325 1=377.2f3.322.325",
   "1=377.2f4.322.325 1=3a9.2f3.325 1=3a9.2f4.325 1=3a9.2f3.2e0.325 1=3a9.2f4.2e0.325",
   "1=3a9.2f3.2e1.325 1=3a9.2f4.2e1.325 1=3a9.2f3.322.325 1=3a9.2f4.322.325 1=389.2f3.325",
   "1=389.2f4.325 1=389.2f3.2e0.325 1=389.2f4.2e0.325 1=389.2f3.2e1.325 1=389.2f4.2e1.325",
   "1=389.2f3.322.325 1=389.2f4.322.325 1=391.2e6 1=391.2e4 1=391.2e0.325 1=391.325",
   "1=391.2e1.325 2=391.322 1=391.322.325 1=371.2e6 1=371.2e4 1=371.2e0 1=371.2e1 1=371.325",
   "2=399 4=397.2e0.325 1=397.325 1=397.2e1.325 2=397.322 1=397.322.325 1=375.2e0 1=375.2e1",
   "1=377.2e0 1=377.2e1 1=377.325 4=399.2e6 1=399.2e4 1=399.2e8.2e0 1=399.2e8.2e1 3=399.322",
   "1=399.2e8.322 1=379.2e6 1=379.2e4 1=379.2e0 1=379.2e1 5=3a5.2e6 1=3a5.2e4 1=3a5.2e8.2e0",
   "1=3a5.2e8.2e1 1=3a1.2f3 1=3a1.2f4 1=3a5.322 1=3a5.2e8.322 1=385.2e6 1=385.2e4 1=385.2e0",
   "1=385.2e1 1=381.2f4 6=3a9.2e0.325 1=3a9.325 1=3a9.2e1.325 2=3a9.322 1=3a9.322.325 1=37f.2e0",
   "1=37f.2e1 1=389.2e0 1=389.2e1 1=389.325 75=49 e=4e 11=41 1=45 1=4f 1=58 1=239 1=48 1=4b",
   "1=4c 1=4d 1=4e 1=50 1=53 1=54 66=23 5=170 3=47 1=28 1=28 1=28 1=48 1=107 1=29 1=29 1=2c",
   "1=4c 2=2e 4=30 1=31 1=32 1=32 1=32 7=3a 2=389 2=3a 2=2b 1=21.2ea 1=22 1=23 2=45 1=25 1=26",
   "2=2d 1=4f 1=5b0 1=5b1 1=5b2 1=5b3 1=49 3=3a0 1=393 1=373 1=380 6=24 1=44 1=45 1=49 1=4a",
   "17=29 1=29.29 1=29.29.29 1=29.36 1=36 1=36.29 1=36.29.29 1=36.29.29.29 1=29.38 1=38 1=38.29",
   "1=38.29.29 1=2c 1=23 1=24 1=2d 1=49 1=49.49 1=49.49.49 1=49.56 1=56 1=56.49 1=56.49.49",
   "1=56.49.49.49 1=49.58 1=58 1=58.49 1=58.49.49 1=4c 1=43 1=44 1=4d afd=4a 1=36 f2=2d41",
   "2c9=5321 1=5324 1=5325 12=302b.3079 2=302d.3079 2=302f.3079 2=3031.3079 2=3033.3079",
   "2=3035.3079 2=3037.3079 2=3039.3079 2=303b.3079 2=303d.3079 2=303f.3079 2=3041.3079",
   "3=3044.3079 2=3046.3079 2=3048.3079 7=304f.3079 1=304f.307a 2=3052.3079 1=3052.307a",
   "2=3055.3079 1=3055.307a 2=3058.3079 1=3058.307a 2=305b.3079 1=305b.307a 17=3026.3079",
   "a=307d.3079 1=3068.306a d=308b.3079 2=308d.3079 2=308f.3079 2=3091.3079 2=3093.3079",
   "2=3095.3079 2=3097.3079 2=3099.3079 2=309b.3079 2=309d.3079 2=309f.3079 2=30a1.3079",
   "3=30a4.3079 2=30a6.3079 2=30a8.3079 7=30af.3079 1=30af.307a 2=30b2.3079 1=30b2.307a",
   "2=30b5.3079 1=30b5.307a 2=30b8.3079 1=30b8.307a 2=30bb.3079 1=30bb.307a 17=3086.3079",
   "3=30cf.3079 1=30d0.3079 1=30d1.3079 1=30d2.3079 4=30dd.3079 1=3093.30a8 32=10e0 1=10e1",
   "1=118a 1=10e2 1=118c 1=118d 1=10e3 1=10e4 1=10e5 1=1190 1=1191 1=1192 1=1193 1=1194 1=1195",
   "1=10fa 1=10e6 1=10e7 1=10e8 1=1101 1=10e9 1=10ea 1=10eb 1=10ec 1=10ed 1=10ee 1=10ef 1=10f0",
   "1=10f1 1=10f2 1=1141 1=1142 1=1143 1=1144 1=1145 1=1146 1=1147 1=1148 1=1149 1=114a 1=114b",
   "1=114c 1=114d 1=114e 1=114f 1=1150 1=1151 1=1152 1=1153 1=1154 1=1155 1=1140 1=10f4 1=10f5",
   "1=11a7 1=11a8 1=11ac 1=11ae 1=11b3 1=11b7 1=11b9 1=10fc 1=11bd 1=11bf 1=10fd 1=10fe 1=1100",
   "1=1102 1=1103 1=1107 1=1109 1=110b 1=110c 1=110d 1=110e 1=110f 1=1112 1=1116 1=1120 1=1127",
   "1=112c 1=11d1 1=11d2 1=1137 1=1138 1=1139 1=1164 1=1165 1=1168 1=1171 1=1172 1=1174 1=117e",
   "1=1181 750e=42a 1=42c d3=a74f 82=23 1=26 1=31 4=106 1=133 363=a707 1=ab17 1=24b 1=ab32",
   "a=26d 4d97=8c28 1=66d4 1=8eaa 1=8ca8 1=6eb1 1=4e12 1=53c5 1=9f7c 1=9f7c 1=5931 1=91b1",
   "1=5567 1=5928 1=61d6 1=7649 1=7f65 1=861f 1=879a 1=88d8 1=906f 1=69e2 1=6cfb 1=70b9 1=73be",
   "1=841d 1=914a 1=99d1 1=4e62 1=5355 1=6ae4 1=71fb 1=860d 1=9dfe 1=5d30 1=6fcb 1=85ad 1=8944",
   "1=62a9 1=81b8 1=87ff 1=5eaa 1=66f7 1=6d4a 1=72dc 1=90ae 1=4f66 1=5197 1=52be 1=64a4 1=6ab3",
   "1=71f0 1=76c7 1=7fe1 1=85e6 1=863c 1=8dcf 1=9712 1=9b4f 1=9dda 1=786c 1=795f 1=7d80 1=83a9",
   "1=92e4 1=9e5f 1=8ab6 1=58bf 1=5ee4 1=7c40 1=805e 1=7242 1=78aa 1=8ca2 1=96d7 1=58b8 1=5c42",
   "1=69f3 1=6dba 1=6eef 1=7d0f 1=7e17 1=962b 1=52b2 1=806b 1=51bc 1=51ac 1=79fc 1=7d9e 1=83d1",
   "1=9655 1=8b60 1=62af 1=69e2 1=8ade 1=4e19 1=5bc7 1=5ff2 1=7367 1=7550 1=52f7 1=78db 1=4f9f",
   "1=5f89 1=4ded 1=6cac 1=6558 1=7d02 1=53a3 1=583e 1=76e1 1=8429 1=8a8a 1=6b9a 1=8f90 1=6c68",
   "1=62de 1=82c5 1=6380 1=7545 1=4e8e 1=5149 1=51a9 1=6861 1=7cc7 1=824f 1=8ab2 1=91af 1=52d5",
   "1=5422 1=5953 1=5ecc 1=65a5 1=6fde 1=790a 1=958d 1=9a4a 1=9e77 1=9eae 1=527b 1=66a6 1=6b57",
   "1=8f42 1=5e54 1=6170 1=61e0 1=647a 1=6f03 1=7129 1=7469 1=79aa 1=7dd4 1=804f 1=8f06 1=84ce",
   "1=9003 1=932a 1=51f7 1=5283 1=549d 1=70a8 1=88a2 1=8a8a 1=5ea9 1=5fd5 1=635b 1=6b8e 1=7c1e",
   "1=7355 1=4ec4 1=56d9 1=5bc7 1=5d9a 1=5ffc 1=7392 1=7449 1=7f7a 1=8026 1=9214 1=96d6 1=9728",
   "1=97f8 1=4f6b 1=798e 1=9194 1=9698 1=60c1 1=4e66 1=50ba 1=5bce 1=5c1f 1=6579 1=69e2 1=71ae",
   "1=7622 1=84dc 1=905c 1=9f6d 1=6668 1=960e 1=5269 1=675b 1=67d3 1=6d21 1=6e7c 1=73e9 1=7539",
   "1=784b 1=7cf0 1=983e 1=514d 1=620e 1=9658 1=500b 1=5cf9 1=6dca 1=8f0a 1=5f6b 1=6124 1=67f7",
   "1=7367 1=9666 1=5209 1=53ef 1=5c45 1=65f3 1=672e 1=6888 1=6cc5 1=73e6 1=75c2 1=7f59 1=88af",
   "1=88c1 1=91ac 1=96c2 1=531f 1=6e9a 1=53fd 1=71b0 1=7478 1=85da 1=9683 1=9c37 1=9e7f 1=6777",
   "1=6dab 1=81c8 1=7aab 1=7b00 1=7c72 1=72a0 1=7079 1=8b38 1=4ea0 1=8316 1=521a 1=51e7 1=5e86",
   "1=62b3 1=7cb6 1=5b65 1=6cfe 1=6694 1=8f1b 1=882c 1=962d 1=896b 1=5eb3 1=5120 1=55a0 3=583a",
   "2=6654 3=51be 1=730a 1=76aa 1=791c 1=793e 1=7945 1=796f 1=9736 1=7c9e 1=7f9d 2=85f2 2=8ad8",
   "3=9018 1=90dd 4=98cf 1=98dc 1=9908 1=9d94 1=90be 1=9697 1=4f8e 1=50c7 1=512d 1=52a9 1=52c4",
   "1=5331 1=557d 1=55e6 1=5648 1=5820 1=5888 1=5c44 1=5c4e 1=6074 1=6148 1=616e 1=61d2 1=652f",
   "1=65c2 1=6671 1=6865 1=6d57 1=6dfa 1=6f02 1=714e 1=720b 1=7402 1=7871 1=791e 1=7929 1=7928",
   "1=7930 1=7936 1=793d 1=796d 1=796e 1=7a20 1=7a61 1=7ba0 1=7dd4 1=7de9 1=7e21 1=7f52 1=7fe5",
   "1=81cd 1=8259 1=8259 1=8437 1=88f0 1=8976 1=8ae1 1=8b19 1=8cb3 1=8ce8 1=8f96 1=9018 1=96c3",
   "1=97df 1=981b 1=6055 1=242ce 1=81f8 3=4e06 1=5195 1=5148 1=4f60 1=5125 1=5160 1=52a7 1=52da",
   "1=557d 1=5535 1=5579 1=55c2 1=583a 1=5893 1=5924 1=5934 1=5a42 1=5b08 1=5eb2 1=5eb9 1=5f49",
   "1=5f8d 1=60b8 1=612e 1=60e8 1=616e 1=6140 1=61d2 1=6214 1=63a4 1=63fc 1=6432 1=6536 1=6654",
   "1=66f7 1=66fb 1=6736 1=6b59 1=6b9a 1=6d21 1=6ebb 1=6eab 1=6f02 1=6ffe 1=714e 1=7787 1=7215",
   "1=728f 1=730a 1=7451 1=74e6 1=751b 1=75fd 1=75ff 1=76aa 1=76bb 1=76d4 1=772a 1=7720 1=78ac",
   "1=7a91 1=7ba0 1=7c5b 1=7d3b 1=7dd4 1=7f1e 1=7fe5 1=8332 1=83cf 1=8759 1=8921 1=8966 1=8976",
   "1=8a9f 1=8ad8 1=8aab 1=8ae1 1=8ade 1=8acd 1=8b19 1=8b6a 1=8ce8 1=8f18 1=9052 1=9179 1=9256",
   "1=965c 1=96c3 1=9736 1=97bb 1=97df 1=97eb 1=981b 1=9af2 1=9f7c 1=2282a 1=22824 1=233b5",
   "1=3b7d 1=3ff8 1=4019 1=25229 1=25cb0 1=27eb3 1=9f23 1=9f6e 27=46.46 1=46.49 1=46.4c",
   "1=46.46.49 1=46.46.4c 1=53.54 1=53.54 d=554.556 1=554.545 1=554.54b 1=55e.556 1=554.54d",
   "6=5b9.594 2=5d2.597 1=5c2 1=5b0 1=5b3 1=5b4 1=5bb 1=5bc 1=5bd 1=5c8 1=5ca 2=5c9.5a1",
   "1=5c9.5a2 1=5c9.59c.5a1 1=5c9.59c.5a2 1=5b0.597 1=5b0.598 1=5b0.59c 1=5b1.59c 1=5b2.59c",
   "1=5b3.59c 1=5b4.59c 1=5b5.59c 1=5b6.59c 2=5b8.59c 1=5b9.59c 1=5ba.59c 1=5bb.59c 1=5bc.59c",
   "2=5be.59c 2=5c0.59c 1=5c1.59c 2=5c3.59c 1=5c4.59c 2=5c6.59c 1=5c7.59c 1=5c8.59c 1=5c9.59c",
   "1=5ca.59c 1=5b5.599 1=5b1.59f 1=5bb.59f 1=5c4.59f 1=5b0.5bc 1=651 1=651 1=65b 1=65b 1=65b",
   "1=65b 1=65e 1=65e 1=65e 1=65e 1=660 1=660 1=660 1=660 1=65a 1=65a 1=65a 1=65a 1=65f 1=65f",
   "1=65f 1=65f 1=659 1=659 1=659 1=659 1=684 1=684 1=684 1=684 1=686 1=686 1=686 1=686 1=664",
   "1=664 1=664 1=664 1=663 1=663 1=663 1=663 1=666 1=666 1=666 1=666 1=667 1=667 1=667 1=667",
   "1=66d 1=66d 1=66c 1=66c 1=66e 1=66e 1=668 1=668 1=678 1=678 1=671 1=671 1=689 1=689 1=689",
   "1=689 1=68f 1=68f 1=68f 1=68f 1=693 1=693 1=693 1=693 1=691 1=691 1=691 1=691 1=69a 1=69a",
   "1=69b 1=69b 1=69b 1=69b 1=6b5.634 1=6b5.634 1=6a1 1=6a1 1=6a1 1=6a1 1=69e 1=69e 1=69e 1=69e",
   "1=6b2 1=6b2 1=6b2.634 1=6b2.634 22=68d 1=68d 1=68d 1=68d 1=6a7 1=6a7 1=6a6 1=6a6 1=6a8",
   "1=6a8 1=6a7.654 1=6ab 1=6ab 1=6a5 1=6a5 1=6a9 1=6a9 1=6b0 1=6b0 1=6b0 1=6b0 1=629 1=629",
   "1=62a.634.607 1=62a.634.607 1=62a.634.6b5 1=62a.634.6b5 1=62a.634.628 1=62a.634.628",
   "1=62a.634.6a7 1=62a.634.6a7 1=62a.634.6a6 1=62a.634.6a6 1=62a.634.6a8 1=62a.634.6a8",
   "1=62a.634.6b0 1=62a.634.6b0 1=62a.634.6b0 1=62a.634.629 1=62a.634.629 1=62a.634.629 1=6ac",
   "1=6ac 1=6ac 1=6ac 1=62a.634.60c 1=62a.634.60d 1=62a.634.625 1=62a.634.629 1=62a.634.62a",
   "1=608.60c 1=608.60d 1=608.60e 1=608.625 1=608.629 1=608.62a 1=60a.60c 1=60a.60d 1=60a.60e",
   "1=60a.625 1=60a.629 1=60a.62a 1=60b.60c 1=60b.625 1=60b.629 1=60b.62a 1=60c.60d 1=60c.625",
   "1=60d.60c 1=60d.625 1=60e.60c 1=60e.60d 1=60e.625 1=613.60c 1=613.60d 1=613.60e 1=613.625",
   "1=615.60d 1=615.625 1=616.60c 1=616.60d 1=616.60e 1=616.625 1=617.60d 1=617.625 1=618.625",
   "1=619.60c 1=619.625 1=61a.60c 1=61a.625 1=621.60c 1=621.60d 1=621.60e 1=621.625 1=621.629",
   "1=621.62a 1=622.60d 1=622.625 1=622.629 1=622.62a 1=623.607 1=623.60c 1=623.60d 1=623.60e",
   "1=623.624 1=623.625 1=623.629 1=623.62a 1=624.60c 1=624.60d 1=624.60e 1=624.625 1=624.629",
   "1=624.62a 1=625.60c 1=625.60d 1=625.60e 1=625.625 1=625.629 1=625.62a 1=626.60c 1=626.60d",
   "1=626.60e 1=626.625 1=626.629 1=626.62a 1=627.60c 1=627.625 1=627.629 1=627.62a 1=62a.60c",
   "1=62a.60d 1=62a.60e 1=62a.625 1=62a.629 1=62a.62a 1=610.650 1=611.650 1=629.650",
   "7=62a.634.611 1=62a.634.612 1=62a.634.625 1=62a.634.626 1=62a.634.629 1=62a.634.62a",
   "1=608.611 1=608.612 1=608.625 1=608.626 1=608.629 1=608.62a 1=60a.611 1=60a.612 1=60a.625",
   "1=60a.626 1=60a.629 1=60a.62a 1=60b.611 1=60b.612 1=60b.625 1=60b.626 1=60b.629 1=60b.62a",
   "1=621.629 1=621.62a 1=622.629 1=622.62a 1=623.607 1=623.624 1=623.625 1=623.629 1=623.62a",
   "1=624.625 1=624.629 1=624.62a 1=625.607 1=625.625 1=626.611 1=626.612 1=626.625 1=626.626",
   "1=626.629 1=626.62a 1=629.650 1=62a.611 1=62a.612 1=62a.625 1=62a.626 1=62a.629 1=62a.62a",
   "1=62a.634.60c 1=62a.634.60d 1=62a.634.60e 1=62a.634.625 1=62a.634.627 1=608.60c 1=608.60d",
   "1=608.60e 1=608.625 1=608.627 1=60a.60c 1=60a.60d 1=60a.60e 1=60a.625 1=60a.627 1=60b.625",
   "1=60c.60d 1=60c.625 1=60d.60c 1=60d.625 1=60e.60c 1=60e.625 1=613.60c 1=613.60d 1=613.60e",
   "1=613.625 1=615.60d 1=615.60e 1=615.625 1=616.60c 1=616.60d 1=616.60e 1=616.625 1=617.60d",
   "1=618.625 1=619.60c 1=619.625 1=61a.60c 1=61a.625 1=621.60c 1=621.60d 1=621.60e 1=621.625",
   "1=622.60d 1=622.625 1=623.60c 1=623.60d 1=623.60e 1=623.624 1=623.625 1=624.60c 1=624.60d",
   "1=624.60e 1=624.625 1=624.627 1=625.60c 1=625.60d 1=625.60e 1=625.625 1=626.60c 1=626.60d",
   "1=626.60e 1=626.625 1=626.627 1=627.60c 1=627.625 1=627.650 1=62a.60c 1=62a.60d 1=62a.60e",
   "1=62a.625 1=62a.627 1=62a.634.625 1=62a.634.627 1=608.625 1=608.627 1=60a.625 1=60a.627",
   "1=60b.625 1=60b.627 1=613.625 1=613.627 1=614.625 1=614.627 1=623.624 1=623.625 1=624.625",
   "1=626.625 1=626.627 1=62a.625 1=62a.627 1=620.62e.631 1=620.62f.631 1=620.630.631 1=617.629",
   "1=617.62a 1=619.629 1=619.62a 1=61a.629 1=61a.62a 1=613.629 1=613.62a 1=614.629 1=614.62a",
   "1=60d.629 1=60d.62a 1=60c.629 1=60c.62a 1=60e.629 1=60e.62a 1=615.629 1=615.62a 1=616.629",
   "1=616.62a 1=614.60c 1=614.60d 1=614.60e 1=614.625 1=614.611 1=613.611 1=615.611 1=616.611",
   "1=617.629 1=617.62a 1=619.629 1=619.62a 1=61a.629 1=61a.62a 1=613.629 1=613.62a 1=614.629",
   "1=614.62a 1=60d.629 1=60d.62a 1=60c.629 1=60c.62a 1=60e.629 1=60e.62a 1=615.629 1=615.62a",
   "1=616.629 1=616.62a 1=614.60c 1=614.60d 1=614.60e 1=614.625 1=614.611 1=613.611 1=615.611",
   "1=616.611 1=614.60c 1=614.60d 1=614.60e 1=614.625 1=613.627 1=614.627 1=617.625 1=613.60c",
   "1=613.60d 1=613.60e 1=614.60c 1=614.60d 1=614.60e 1=617.625 1=618.625 1=607.62b 1=607.62b",
   "13=60a.60c.625 1=60a.60d.60c 1=60a.60d.60c 1=60a.60d.625 1=60a.60e.625 1=60a.625.60c",
   "1=60a.625.60d 1=60a.625.60e 1=60c.625.60d 1=60c.625.60d 1=60d.625.62a 1=60d.625.629",
   "1=613.60d.60c 1=613.60c.60d 1=613.60c.629 1=613.625.60d 1=613.625.60d 1=613.625.60c",
   "1=613.625.625 1=613.625.625 1=615.60d.60d 1=615.60d.60d 1=615.625.625 1=614.60d.625",
   "1=614.60d.625 1=614.60c.62a 1=614.625.60e 1=614.625.60e 1=614.625.625 1=614.625.625",
   "1=616.60d.629 1=616.60e.625 1=616.60e.625 1=617.625.60d 1=617.625.60d 1=617.625.625",
   "1=617.625.62a 1=619.60c.625 1=619.625.625 1=619.625.625 1=619.625.629 1=61a.625.625",
   "1=61a.625.62a 1=61a.625.629 1=621.60e.625 1=621.60e.625 1=622.625.60d 1=622.625.625",
   "1=624.60d.625 1=624.60d.62a 1=624.60d.629 1=624.60c.60c 1=624.60c.60c 1=624.60e.625",
   "1=624.60e.625 1=624.625.60d 1=624.625.60d 1=625.60d.60c 1=625.60d.625 1=625.60d.62a",
   "1=625.60c.60d 1=625.60c.625 1=625.60e.60c 1=625.60e.625 3=625.60c.60e 1=627.625.60c",
   "1=627.625.625 1=626.60d.625 1=626.60d.629 1=626.60c.625 1=626.60c.625 1=626.60c.629",
   "1=626.625.62a 1=626.625.629 1=62a.625.625 1=62a.625.625 1=608.60e.62a 1=60a.60c.62a",
   "1=60a.60c.629 1=60a.60e.62a 1=60a.60e.629 1=60a.625.62a 1=60a.625.629 1=60c.625.62a",
   "1=60c.60d.629 1=60c.625.629 1=613.60e.629 1=615.60d.62a 1=614.60d.62a 1=616.60d.62a",
   "1=624.60c.62a 1=624.625.62a 1=62a.60d.62a 1=62a.60c.62a 1=62a.625.62a 1=625.625.62a",
   "1=622.625.62a 1=626.60d.62a 1=622.625.60d 1=624.60d.625 1=619.625.62a 1=623.625.62a",
   "1=626.60c.60d 1=625.60e.62a 1=624.60c.625 1=623.625.625 1=624.60c.625 1=626.60c.60d",
   "1=60c.60d.62a 1=60d.60c.62a 1=625.60c.62a 1=621.625.62a 1=608.60d.62a 1=623.625.625",
   "1=619.60c.625 1=615.625.625 1=613.60e.62a 1=626.60c.62a 29=615.624.6b2 1=622.624.6b2",
   "1=607.624.624.627 1=607.623.608.611 1=625.60d.625.60f 1=615.624.619.625 1=611.613.628.624",
   "1=619.624.62a.627 1=628.613.624.625 1=615.624.629 3a=3f 1=3f 19=3f 1=3f 1=3f 22=620.62b",
   "6=620.62e 2=620.62f 2=620.630 2=620.631 2=620.632 1=601 1=607.633 1=607.633 1=607.634",
   "1=607.634 1=628.634 1=628.634 1=607.635 1=607.635 1=62a.634 1=62a.634 1=62a.634 1=62a.634",
   "1=607 1=607 1=608 1=608 1=608 1=608 1=609 1=609 1=60a 1=60a 1=60a 1=60a 1=60b 1=60b 1=60b",
   "1=60b 1=60c 1=60c 1=60c 1=60c 1=60d 1=60d 1=60d 1=60d 1=60e 1=60e 1=60e 1=60e 1=60f 1=60f",
   "1=610 1=610 1=611 1=611 1=612 1=612 1=613 1=613 1=613 1=613 1=614 1=614 1=614 1=614 1=615",
   "1=615 1=615 1=615 1=616 1=616 1=616 1=616 1=617 1=617 1=617 1=617 1=618 1=618 1=618 1=618",
   "1=619 1=619 1=619 1=619 1=61a 1=61a 1=61a 1=61a 1=621 1=621 1=621 1=621 1=622 1=622 1=622",
   "1=622 1=623 1=623 1=623 1=623 1=624 1=624 1=624 1=624 1=625 1=625 1=625 1=625 1=626 1=626",
   "1=626 1=626 1=627 1=627 1=627 1=627 1=628 1=628 1=629 1=629 1=62a 1=62a 1=62a 1=62a",
   "1=624.607.633 1=624.607.633 1=624.607.634 1=624.607.634 1=624.607.635 1=624.607.635",
   "1=624.607 1=624.607 14=10 1=11 1=12 1=13 1=14 1=15 1=16 1=17 1=18 1=19 8=21 1=22 1=23 1=24",
   "1=25 1=26 1=27 1=28 1=29 1=2a 1=2b 1=2c 1=2d 1=2e 1=2f 1=30 1=31 1=32 1=33 1=34 1=35 1=36",
   "1=37 1=38 1=39 1=3a 5=3f 2=41 1=42 1=43 1=44 1=45 1=46 1=47 1=48 1=49 1=4a 1=4b 1=4c 1=4d",
   "1=4e 1=4f 1=50 1=51 1=52 1=53 1=54 1=55 1=56 1=57 1=58 1=59 1=5a c=30d2 1=3081 1=3083",
   "1=3085 1=3087 1=3089 1=30c3 1=30c5 1=30c7 1=30a3 1=30dc 1=3082 1=3084 1=3086 1=3088 1=308a",
   "1=308b 1=308d 1=308f 1=3091 1=3093 1=3095 1=3097 1=3099 1=309b 1=309d 1=309f 1=30a1 1=30a4",
   "1=30a6 1=30a8 1=30aa 1=30ab 1=30ac 1=30ad 1=30ae 1=30af 1=30b2 1=30b5 1=30b8 1=30bb 1=30be",
   "1=30bf 1=30c0 1=30c1 1=30c2 1=30c4 1=30c6 1=30c8 1=30c9 1=30ca 1=30cb 1=30cc 1=30cd 1=30cf",
   "1=30d3 1=3079 1=307a 1=1140 1=10e0 1=10e1 1=118a 1=10e2 1=118c 1=118d 1=10e3 1=10e4 1=10e5",
   "1=1190 1=1191 1=1192 1=1193 1=1194 1=1195 1=10fa 1=10e6 1=10e7 1=10e8 1=1101 1=10e9 1=10ea",
   "1=10eb 1=10ec 1=10ed 1=10ee 1=10ef 1=10f0 1=10f1 1=10f2 4=1141 1=1142 1=1143 1=1144 1=1145",
   "1=1146 3=1147 1=1148 1=1149 1=114a 1=114b 1=114c 3=114d 1=114e 1=114f 1=1150 1=1151 1=1152",
   "3=1153 1=1154 1=1155 7a5=2b0 1=2b1 1=c6 1=279 1=233 2=283 1=ab46 1=285 1=284 1=236 1=237",
   "1=1d71 1=238 1=23e 1=289 1=244 1=242 1=240 1=27b 1=107 1=27c 1=247 1=264 1=28a 1=28b 1=24c",
   "1=1dee4 1=a76e 1=24e 1=1dee5 1=26e 1=1dee6 1=d8 1=256 1=257 1=51 1=25a 1=1dee8 1=25d 1=25e",
   "1=260 1=288 1=286 1=ab47 1=287 1=268 1=2c51 2=26f 1=281 1=282 1=278 1=1a0 1=1a1 1=1a2",
   "1=1deea 1=1defe 8e0=11079.1109a 2=1107b.1109a f=11085.1109a 83=11111.11107 1=11112.11107",
   "21c=11327.1131e 1=11327.11337 16f=11499.1149a 1=11499.11490 2=11499.1149d fc=11598.1158f",
   "1=11599.1158f 37d=11915.11910 bac8=21 1=22 1=23 1=24 1=25 1=26 1=27 1=28 1=29 1=2a 1=2b",
   "1=2c 1=2d 1=2e 1=2f 1=30 1=31 1=32 1=33 1=34 1=35 1=36 1=37 1=38 1=39 1=3a 1=41 1=42 1=43",
   "1=44 1=45 1=46 1=47 1=48 1=49 1=4a 1=4b 1=4c 1=4d 1=4e 1=4f 1=50 1=51 1=52 1=53 1=54 1=55",
   "1=56 1=57 1=58 1=59 1=5a 1=21 1=22 1=23 1=24 1=25 1=26 1=27 1=28 1=29 1=2a 1=2b 1=2c 1=2d",
   "1=2e 1=2f 1=30 1=31 1=32 1=33 1=34 1=35 1=36 1=37 1=38 1=39 1=3a 1=41 1=42 1=43 1=44 1=45",
   "1=46 1=47 2=49 1=4a 1=4b 1=4c 1=4d 1=4e 1=4f 1=50 1=51 1=52 1=53 1=54 1=55 1=56 1=57 1=58",
   "1=59 1=5a 1=21 1=22 1=23 1=24 1=25 1=26 1=27 1=28 1=29 1=2a 1=2b 1=2c 1=2d 1=2e 1=2f 1=30",
   "1=31 1=32 1=33 1=34 1=35 1=36 1=37 1=38 1=39 1=3a 1=41 1=42 1=43 1=44 1=45 1=46 1=47 1=48",
   "1=49 1=4a 1=4b 1=4c 1=4d 1=4e 1=4f 1=50 1=51 1=52 1=53 1=54 1=55 1=56 1=57 1=58 1=59 1=5a",
   "1=21 2=23 1=24 3=27 3=2a 1=2b 3=2e 1=2f 1=30 1=31 2=33 1=34 1=35 1=36 1=37 1=38 1=39 1=3a",
   "1=41 1=42 1=43 1=44 2=46 2=48 1=49 1=4a 1=4b 1=4c 1=4d 1=4e 2=50 1=51 1=52 1=53 1=54 1=55",
   "1=56 1=57 1=58 1=59 1=5a 1=21 1=22 1=23 1=24 1=25 1=26 1=27 1=28 1=29 1=2a 1=2b 1=2c 1=2d",
   "1=2e 1=2f 1=30 1=31 1=32 1=33 1=34 1=35 1=36 1=37 1=38 1=39 1=3a 1=41 1=42 1=43 1=44 1=45",
   "1=46 1=47 1=48 1=49 1=4a 1=4b 1=4c 1=4d 1=4e 1=4f 1=50 1=51 1=52 1=53 1=54 1=55 1=56 1=57",
   "1=58 1=59 1=5a 1=21 1=22 2=24 1=25 1=26 1=27 3=2a 1=2b 1=2c 1=2d 1=2e 1=2f 1=30 1=31 2=33",
   "1=34 1=35 1=36 1=37 1=38 1=39 2=41 1=42 1=43 1=44 1=45 1=46 1=47 1=48 1=49 1=4a 1=4b 1=4c",
   "1=4d 1=4e 1=4f 1=50 1=51 1=52 1=53 1=54 1=55 1=56 1=57 1=58 1=59 1=5a 1=21 1=22 2=24 1=25",
   "1=26 1=27 2=29 1=2a 1=2b 1=2c 1=2d 2=2f 4=33 1=34 1=35 1=36 1=37 1=38 1=39 2=41 1=42 1=43",
   "1=44 1=45 1=46 1=47 1=48 1=49 1=4a 1=4b 1=4c 1=4d 1=4e 1=4f 1=50 1=51 1=52 1=53 1=54 1=55",
   "1=56 1=57 1=58 1=59 1=5a 1=21 1=22 1=23 1=24 1=25 1=26 1=27 1=28 1=29 1=2a 1=2b 1=2c 1=2d",
   "1=2e 1=2f 1=30 1=31 1=32 1=33 1=34 1=35 1=36 1=37 1=38 1=39 1=3a 1=41 1=42 1=43 1=44 1=45",
   "1=46 1=47 1=48 1=49 1=4a 1=4b 1=4c 1=4d 1=4e 1=4f 1=50 1=51 1=52 1=53 1=54 1=55 1=56 1=57",
   "1=58 1=59 1=5a 1=21 1=22 1=23 1=24 1=25 1=26 1=27 1=28 1=29 1=2a 1=2b 1=2c 1=2d 1=2e 1=2f",
   "1=30 1=31 1=32 1=33 1=34 1=35 1=36 1=37 1=38 1=39 1=3a 1=41 1=42 1=43 1=44 1=45 1=46 1=47",
   "1=48 1=49 1=4a 1=4b 1=4c 1=4d 1=4e 1=4f 1=50 1=51 1=52 1=53 1=54 1=55 1=56 1=57 1=58 1=59",
   "1=5a 1=21 1=22 1=23 1=24 1=25 1=26 1=27 1=28 1=29 1=2a 1=2b 1=2c 1=2d 1=2e 1=2f 1=30 1=31",
   "1=32 1=33 1=34 1=35 1=36 1=37 1=38 1=39 1=3a 1=41 1=42 1=43 1=44 1=45 1=46 1=47 1=48 1=49",
   "1=4a 1=4b 1=4c 1=4d 1=4e 1=4f 1=50 1=51 1=52 1=53 1=54 1=55 1=56 1=57 1=58 1=59 1=5a 1=21",
   "1=22 1=23 1=24 1=25 1=26 1=27 1=28 1=29 1=2a 1=2b 1=2c 1=2d 1=2e 1=2f 1=30 1=31 1=32 1=33",
   "1=34 1=35 1=36 1=37 1=38 1=39 1=3a 1=41 1=42 1=43 1=44 1=45 1=46 1=47 1=48 1=49 1=4a 1=4b",
   "1=4c 1=4d 1=4e 1=4f 1=50 1=51 1=52 1=53 1=54 1=55 1=56 1=57 1=58 1=59 1=5a 1=21 1=22 1=23",
   "1=24 1=25 1=26 1=27 1=28 1=29 1=2a 1=2b 1=2c 1=2d 1=2e 1=2f 1=30 1=31 1=32 1=33 1=34 1=35",
   "1=36 1=37 1=38 1=39 1=3a 1=41 1=42 1=43 1=44 1=45 1=46 1=47 1=48 1=49 1=4a 1=4b 1=4c 1=4d",
   "1=4e 1=4f 1=50 1=51 1=52 1=53 1=54 1=55 1=56 1=57 1=58 1=59 1=5a 1=21 1=22 1=23 1=24 1=25",
   "1=26 1=27 1=28 1=29 1=2a 1=2b 1=2c 1=2d 1=2e 1=2f 1=30 1=31 1=32 1=33 1=34 1=35 1=36 1=37",
   "1=38 1=39 1=3a 1=41 1=42 1=43 1=44 1=45 1=46 1=47 1=48 1=49 1=4a 1=4b 1=4c 1=4d 1=4e 1=4f",
   "1=50 1=51 1=52 1=53 1=54 1=55 1=56 1=57 1=58 1=59 1=5a 1=111 1=217 3=371 1=372 1=373 1=374",
   "1=375 1=376 1=377 1=378 1=379 1=37a 1=37b 1=37c 1=37d 1=37e 1=37f 1=380 1=381 1=378 1=383",
   "1=384 1=385 1=386 1=387 1=388 1=389 2=391 1=392 1=393 1=394 1=395 1=396 1=397 1=398 1=399",
   "1=39a 1=39b 1=39c 1=39d 1=39e 1=39f 1=3a0 1=3a1 1=3a2 1=3a3 1=3a4 1=3a5 1=3a6 1=3a7 1=3a8",
   "1=3a9 2=395 1=398 1=39a 1=3a6 1=3a1 1=3a0 1=371 1=372 1=373 1=374 1=375 1=376 1=377 1=378",
   "1=379 1=37a 1=37b 1=37c 1=37d 1=37e 1=37f 1=380 1=381 1=378 1=383 1=384 1=385 1=386 1=387",
   "1=388 1=389 2=391 1=392 1=393 1=394 1=395 1=396 1=397 1=398 1=399 1=39a 1=39b 1=39c 1=39d",
   "1=39e 1=39f 1=3a0 1=3a1 1=3a2 1=3a3 1=3a4 1=3a5 1=3a6 1=3a7 1=3a8 1=3a9 2=395 1=398 1=39a",
   "1=3a6 1=3a1 1=3a0 1=371 1=372 1=373 1=374 1=375 1=376 1=377 1=378 1=379 1=37a 1=37b 1=37c",
   "1=37d 1=37e 1=37f 1=380 1=381 1=378 1=383 1=384 1=385 1=386 1=387 1=388 1=389 2=391 1=392",
   "1=393 1=394 1=395 1=396 1=397 1=398 1=399 1=39a 1=39b 1=39c 1=39d 1=39e 1=39f 1=3a0 1=3a1",
   "1=3a2 1=3a3 1=3a4 1=3a5 1=3a6 1=3a7 1=3a8 1=3a9 2=395 1=398 1=39a 1=3a6 1=3a1 1=3a0 1=371",
   "1=372 1=373 1=374 1=375 1=376 1=377 1=378 1=379 1=37a 1=37b 1=37c 1=37d 1=37e 1=37f 1=380",
   "1=381 1=378 1=383 1=384 1=385 1=386 1=387 1=388 1=389 2=391 1=392 1=393 1=394 1=395 1=396",
   "1=397 1=398 1=399 1=39a 1=39b 1=39c 1=39d 1=39e 1=39f 1=3a0 1=3a1 1=3a2 1=3a3 1=3a4 1=3a5",
   "1=3a6 1=3a7 1=3a8 1=3a9 2=395 1=398 1=39a 1=3a6 1=3a1 1=3a0 1=371 1=372 1=373 1=374 1=375",
   "1=376 1=377 1=378 1=379 1=37a 1=37b 1=37c 1=37d 1=37e 1=37f 1=380 1=381 1=378 1=383 1=384",
   "1=385 1=386 1=387 1=388 1=389 2=391 1=392 1=393 1=394 1=395 1=396 1=397 1=398 1=399 1=39a",
   "1=39b 1=39c 1=39d 1=39e 1=39f 1=3a0 1=3a1 1=3a2 1=3a3 1=3a4 1=3a5 1=3a6 1=3a7 1=3a8 1=3a9",
   "2=395 1=398 1=39a 1=3a6 1=3a1 1=3a0 1=3bc 1=3bd 3=10 1=11 1=12 1=13 1=14 1=15 1=16 1=17",
   "1=18 1=19 1=10 1=11 1=12 1=13 1=14 1=15 1=16 1=17 1=18 1=19 1=10 1=11 1=12 1=13 1=14 1=15",
   "1=16 1=17 1=18 1=19 1=10 1=11 1=12 1=13 1=14 1=15 1=16 1=17 1=18 1=19 1=10 1=11 1=12 1=13",
   "1=14 1=15 1=16 1=17 1=18 1=19 1601=607 1=608 1=60c 1=60f 2=628 1=612 1=60d 1=617 1=62a",
   "1=623 1=624 1=625 1=626 1=613 1=619 1=621 1=615 1=622 1=611 1=614 1=60a 1=60b 1=60e 1=610",
   "1=616 1=618 1=61a 1=64e 1=69a 1=681 1=64f 2=608 1=60c 2=627 3=60d 2=62a 1=623 1=624 1=625",
   "1=626 1=613 1=619 1=621 1=615 1=622 2=614 1=60a 1=60b 1=60e 2=616 2=61a 7=60c 5=60d 2=62a",
   "2=624 2=626 1=613 1=619 2=615 1=622 2=614 3=60e 2=616 2=61a 2=69a 2=64f 2=608 1=60c 2=627",
   "3=60d 1=617 1=62a 1=623 2=625 1=626 1=613 1=619 1=621 1=615 1=622 2=614 1=60a 1=60b 1=60e",
   "2=616 1=618 1=61a 1=64e 2=681 2=607 1=608 1=60c 1=60f 1=627 1=628 1=612 1=60d 1=617 1=62a",
   "2=624 1=625 1=626 1=613 1=619 1=621 1=615 1=622 1=611 1=614 1=60a 1=60b 1=60e 1=610 1=616",
   "1=618 1=61a 6=608 1=60c 1=60f 2=628 1=612 1=60d 1=617 1=62a 2=624 1=625 1=626 1=613 1=619",
   "1=621 1=615 1=622 1=611 1=614 1=60a 1=60b 1=60e 1=610 1=616 1=618 1=61a d35=10 1=11 1=12",
   "1=13 1=14 1=15 1=16 1=17 1=18 1=19 fc07=4e1d 1=4e18 1=4e21 1=20102 1=4f40 1=4f8e 1=4f9b",
   "1=4fe2 1=505a 1=5079 1=50c7 1=50af 1=347e 1=2061a 1=512d 1=5134 1=5144 1=5157 1=204fc",
   "1=3499 1=5147 1=516d 1=2052b 1=5177 1=5184 1=4eac 1=518c 1=5195 1=291bf 1=51d5 1=51e3",
   "1=34bf 1=521b 1=5226 1=5252 1=5257 1=34f5 1=52a7 1=52a9 1=52c4 1=52da 1=52e5 1=52e6 1=52f7",
   "1=5329 1=5331 1=533a 1=5353 1=535d 1=535f 1=535f 1=535f 1=20a0c 1=7050 1=53aa 1=53bf",
   "1=20b43 1=53cb 1=53d1 1=53e6 1=547e 1=5418 1=5428 1=5448 1=5482 1=54d6 1=54f0 1=5533 1=5543",
   "1=5564 1=5564 1=5579 1=558b 1=5593 1=55a2 1=56f6 1=55e6 1=56f7 1=5631 1=5654 1=51e7 1=58ce",
   "1=57ae 1=57d4 1=57ed 1=576b 1=5812 1=5811 1=588c 1=214c4 1=58d2 1=58d7 1=58e6 1=58fa 1=5902",
   "1=5942 1=21688 1=216ca 1=59cc 1=59fb 1=5a07 1=59b8 1=5a46 1=36ce 1=36dc 1=5ae8 1=5b1e",
   "1=5b1e 1=219a8 1=5ba3 1=5bb8 1=5bc7 1=5bd3 1=21af8 1=5bdf 1=5be6 1=5f33 1=5c02 1=3761",
   "1=5c40 1=5c4e 1=5ca0 1=5c6d 1=21dc4 1=5d23 1=21dc6 1=5d4e 1=5d4b 1=5d5c 1=5dc1 1=5dc2",
   "1=380f 1=5ddd 1=5e08 1=5e1d 1=5e49 1=3842 1=22163 1=385c 1=5e90 1=5e93 1=5e96 1=5eaa",
   "1=2a372 1=5ede 1=22311 1=22311 1=81e1 1=5f02 1=5f02 1=38a7 1=23298 1=261ba 1=5f42 1=5f4b",
   "1=38c3 1=5f7a 1=5fad 1=5fb7 1=5fd9 1=6061 1=391a 1=38fc 1=6074 1=226b4 1=60a7 1=6128 1=612c",
   "1=612e 1=612c 1=615a 1=616e 1=6192 1=6184 1=618f 1=61be 1=61d2 1=61d6 1=61f0 1=61fb 1=623d",
   "1=6291 1=62b4 1=6330 1=22aec 1=631d 1=62dc 1=6348 1=6363 1=63c4 1=22bd1 1=6402 1=63a5",
   "1=6389 1=3a0e 1=6449 1=645e 1=647d 1=6457 1=3a4c 1=652f 1=654c 1=22fea 1=65c3 1=66d8 1=6629",
   "1=3af9 1=6671 1=3ae8 1=3ac4 1=5172 1=5175 1=66e0 1=667c 1=808d 1=43b9 1=66f7 1=66fb 1=6701",
   "1=673e 1=6733 1=233a3 1=3b29 1=67da 1=6765 1=6832 1=6865 1=2344d 1=686e 1=67ff 1=68f4",
   "1=3b7d 1=6922 1=6983 1=69ca 1=6a88 1=23683 1=6abb 1=3bf8 1=6b01 1=23887 1=6b34 1=3c2e",
   "1=6b52 1=6b7f 1=6b9a 1=6b9b 1=23a6d 1=21ceb 1=23ada 1=6c2e 1=23c9c 1=6c9f 1=6cad 1=6c47",
   "1=6cf6 1=6d1e 1=6d57 1=6d21 1=6d49 1=6d58 1=6d65 1=23cfe 1=6d14 1=6e0f 1=6e4e 1=3d13 1=6eab",
   "1=6ea7 1=23eb1 1=6dd9 1=6f4e 1=23f3e 1=23f6e 1=6fa6 1=7019 1=6ffe 1=6ffb 1=3d76 1=702a",
   "1=705d 1=7057 1=708d 1=20505 1=7125 1=24243 1=717c 1=2438b 1=7208 1=7215 1=7230 1=245e8",
   "1=7260 1=7275 1=24715 1=247f4 1=735a 1=736b 1=3e8c 1=7385 1=3e98 1=3e98 1=7427 1=743c",
   "1=7451 1=7465 1=74aa 1=3efb 1=7504 1=24c16 1=751e 1=24c72 1=7550 1=2217f 1=75f0 1=24f81",
   "1=24f98 1=25024 1=3fdc 1=3fe8 1=76d4 1=250d3 1=250d2 1=250f9 1=25113 1=76fe 1=76ff 1=76ff",
   "1=772a 1=4019 1=776b 1=4026 1=4076 1=253fd 1=782e 1=786c 1=78ac 1=40c3 1=25606 1=7936",
   "1=2567a 1=256a5 1=796f 1=79cb 1=410f 1=7a20 1=7a2a 1=7a2f 1=2595c 1=25a87 1=25a87 1=7ace",
   "1=41e2 1=25b8b 1=7ba6 1=7ba9 1=4207 1=25c60 1=7cb2 1=4280 1=7cc8 1=7cc3 1=7ce0 1=25f66",
   "1=7d43 1=42e1 1=7da7 1=7de2 1=7e25 1=4314 1=26208 1=26227 1=4339 1=262b9 1=7f5a 1=2631e",
   "1=7f75 1=7fda 1=7fe5 1=264ba 1=26503 1=8040 1=26588 1=8050 1=2333f 1=43b5 1=8092 1=80e3",
   "1=43eb 1=811e 1=5a95 1=26787 1=26795 1=23373 1=2337c 1=81e1 1=81e4 1=8f7e 1=444b 1=8271",
   "1=826b 1=827d 1=5293 1=8291 1=8293 1=829d 1=82c6 1=26b1c 1=82c5 1=82fd 1=8343 1=838d 1=8303",
   "1=839d 1=83c7 1=8437 1=8333 1=83aa 1=83ac 1=83bc 1=26c16 1=26d4b 1=26cb5 1=450b 1=84d1",
   "1=84d3 1=84f6 1=273aa 1=8544 1=26f0c 1=453d 1=4541 1=26f91 1=270b2 1=454b 1=8630 1=863c",
   "1=8647 1=8649 1=8689 1=8668 1=86ee 1=86c2 1=8759 1=8708 1=874b 1=8766 1=45b7 1=87c1 1=87e1",
   "1=45d9 1=8840 1=8843 1=27647 1=88b7 1=88be 1=4615 1=88da 1=349b 1=2788e 1=27946 1=469e",
   "1=46a7 1=8a80 1=8acd 1=8b6a 1=8c35 1=27c88 1=8c8b 1=8ca1 1=8cfb 1=8d57 1=27f0f 1=207e4",
   "1=8dab 1=8d9c 1=8dd0 1=208be 1=8eb4 1=8f18 1=285b2 1=285cd 1=9074 1=90d1 1=90f1 1=2870e",
   "1=90fb 1=9218 1=92b7 1=92b8 1=925c 1=93d9 1=93f5 1=28bda 1=956b 1=4975 1=9597 1=28d57",
   "1=49c6 1=96a3 1=5d92 1=9703 1=29125 1=291fa 1=4a4e 1=4a56 1=97c0 1=293ea 1=4a92 1=29476",
   "1=97eb 1=97eb 1=9809 1=29596 1=98c2 1=4b13 1=9909 1=9987 1=99a2 1=99de 1=4bae 1=29b10",
   "1=9af2 1=9c20 1=9cdd 1=4cae 1=4ccd 1=9d47 1=2a0ae 1=4cd8 1=2a0e5 1=2a1ee 1=2a271 1=9e9b",
   "1=4d36 1=9ed9 1=9ede 1=9ee5 1=9eef 1=9ef6 1=9f1b 1=2a5e0"]

def partsTable : Std.HashMap Nat (List Nat) := Std.HashMap.ofList (keyed 0x20 partsRows)

/-- Code points, each with the two that it is composed of. -/
def pairsRows : List String :=
  ["a0=21.2e0 1=21.2e1 1=21.2e2 1=21.2e3 1=21.2e8 1=21.2ea 2=23.307 1=25.2e0 1=25.2e1 1=25.2e2",
   "1=25.2e8 1=29.2e0 1=29.2e1 1=29.2e2 1=29.2e8 2=2e.2e3 1=2f.2e0 1=2f.2e1 1=2f.2e2 1=2f.2e3",
   "1=2f.2e8 3=35.2e0 1=35.2e1 1=35.2e2 1=35.2e8 1=39.2e1 3=41.2e0 1=41.2e1 1=41.2e2 1=41.2e3",
   "1=41.2e8 1=41.2ea 2=43.307 1=45.2e0 1=45.2e1 1=45.2e2 1=45.2e8 1=49.2e0 1=49.2e1 1=49.2e2",
   "1=49.2e8 2=4e.2e3 1=4f.2e0 1=4f.2e1 1=4f.2e2 1=4f.2e3 1=4f.2e8 3=55.2e0 1=55.2e1 1=55.2e2",
   "1=55.2e8 1=59.2e1 2=59.2e8 1=21.2e4 1=41.2e4 1=21.2e6 1=41.2e6 1=21.308 1=41.308 1=23.2e1",
   "1=43.2e1 1=23.2e2 1=43.2e2 1=23.2e7 1=43.2e7 1=23.2ec 1=43.2ec 1=24.2ec 1=44.2ec 3=25.2e4",
   "1=45.2e4 1=25.2e6 1=45.2e6 1=25.2e7 1=45.2e7 1=25.308 1=45.308 1=25.2ec 1=45.2ec 1=27.2e2",
   "1=47.2e2 1=27.2e6 1=47.2e6 1=27.2e7 1=47.2e7 1=27.307 1=47.307 1=28.2e2 1=48.2e2 3=29.2e3",
   "1=49.2e3 1=29.2e4 1=49.2e4 1=29.2e6 1=49.2e6 1=29.308 1=49.308 1=29.2e7 4=2a.2e2 1=4a.2e2",
   "1=2b.307 1=4b.307 2=2c.2e1 1=4c.2e1 1=2c.307 1=4c.307 1=2c.2ec 1=4c.2ec 5=2e.2e1 1=4e.2e1",
   "1=2e.307 1=4e.307 1=2e.2ec 1=4e.2ec 4=2f.2e4 1=4f.2e4 1=2f.2e6 1=4f.2e6 1=2f.2eb 1=4f.2eb",
   "3=32.2e1 1=52.2e1 1=32.307 1=52.307 1=32.2ec 1=52.2ec 1=33.2e1 1=53.2e1 1=33.2e2 1=53.2e2",
   "1=33.307 1=53.307 1=33.2ec 1=53.2ec 1=34.307 1=54.307 1=34.2ec 1=54.2ec 3=35.2e3 1=55.2e3",
   "1=35.2e4 1=55.2e4 1=35.2e6 1=55.2e6 1=35.2ea 1=55.2ea 1=35.2eb 1=55.2eb 1=35.308 1=55.308",
   "1=37.2e2 1=57.2e2 1=39.2e2 1=59.2e2 1=39.2e8 1=3a.2e1 1=5a.2e1 1=3a.2e7 1=5a.2e7 1=3a.2ec",
   "1=5a.2ec 22=2f.2fb 1=4f.2fb e=35.2fb 1=55.2fb 1d=21.2ec 1=41.2ec 1=29.2ec 1=49.2ec 1=2f.2ec",
   "1=4f.2ec 1=35.2ec 1=55.2ec 1=bc.2e4 1=dc.2e4 1=bc.2e1 1=dc.2e1 1=bc.2ec 1=dc.2ec 1=bc.2e0",
   "1=dc.2e0 2=a4.2e4 1=c4.2e4 1=206.2e4 1=207.2e4 1=a6.2e4 1=c6.2e4 3=27.2ec 1=47.2ec 1=2b.2ec",
   "1=4b.2ec 1=2f.308 1=4f.308 1=1ca.2e4 1=1cb.2e4 1=197.2ec 1=272.2ec 1=4a.2ec 4=27.2e1",
   "1=47.2e1 3=2e.2e0 1=4e.2e0 1=a5.2e1 1=c5.2e1 1=a6.2e1 1=c6.2e1 1=b8.2e1 1=d8.2e1 1=21.2ef",
   "1=41.2ef 1=21.2f1 1=41.2f1 1=25.2ef 1=45.2ef 1=25.2f1 1=45.2f1 1=29.2ef 1=49.2ef 1=29.2f1",
   "1=49.2f1 1=2f.2ef 1=4f.2ef 1=2f.2f1 1=4f.2f1 1=32.2ef 1=52.2ef 1=32.2f1 1=52.2f1 1=35.2ef",
   "1=55.2ef 1=35.2f1 1=55.2f1 1=33.306 1=53.306 1=34.306 1=54.306 3=28.2ec 1=48.2ec 7=21.2e7",
   "1=41.2e7 1=25.307 1=45.307 1=b6.2e4 1=d6.2e4 1=b5.2e4 1=d5.2e4 1=2f.2e7 1=4f.2e7 1=20e.2e4",
   "1=20f.2e4 1=39.2e4 1=59.2e4 152=88.2e1 1=371.2e1 2=375.2e1 1=377.2e1 1=379.2e1 2=37f.2e1",
   "2=385.2e1 1=389.2e1 1=3aa.2e1 1a=379.2e8 1=385.2e8 1=391.2e1 1=395.2e1 1=397.2e1 1=399.2e1",
   "1=3ab.2e1 1a=399.2e8 1=3a5.2e8 1=39f.2e1 1=3a5.2e1 1=3a9.2e1 5=3b2.2e1 1=3b2.2e8 2c=3f5.2e0",
   "1=3f5.2e8 2=3f3.2e1 4=3e6.2e8 5=3fa.2e1 1=3f8.2e0 1=403.2e6 b=3f8.2e6 20=418.2e6 17=415.2e0",
   "1=415.2e8 2=413.2e1 4=436.2e8 5=41a.2e1 1=418.2e0 1=423.2e6 18=454.2ef 1=455.2ef 4a=3f6.2e6",
   "1=416.2e6 e=3f0.2e6 1=410.2e6 1=3f0.2e8 1=410.2e8 3=3f5.2e6 1=415.2e6 3=4b8.2e8 1=4b9.2e8",
   "1=3f6.2e8 1=416.2e8 1=3f7.2e8 1=417.2e8 3=3f8.2e4 1=418.2e4 1=3f8.2e8 1=418.2e8 1=3fe.2e8",
   "1=41e.2e8 3=4c8.2e8 1=4c9.2e8 1=40d.2e8 1=42d.2e8 1=403.2e4 1=423.2e4 1=403.2e8 1=423.2e8",
   "1=403.2eb 1=423.2eb 1=407.2e8 1=427.2e8 3=40b.2e8 1=42b.2e8 129=607.633 1=607.634 1=628.634",
   "1=607.635 1=62a.634 9a=6b5.634 2=6a1.634 11=6b2.634 256=908.91c 8=910.91c 3=913.91c",
   "97=9a7.99e 1=9a7.9b7 17c=b27.b36 3=b27.b1e 1=b27.b37 48=b72.bb7 36=ba6.b9e 1=ba7.b9e",
   "1=ba6.bb7 7c=c26.c36 78=c9f.cb5 7=ca6.cb5 1=ca6.cb6 2=ca6.ca2 1=caa.cb5 7f=d26.d1e",
   "1=d27.d1e 1=d26.d37 8e=db9.daa 2=db9.daf 1=dbc.daa 1=db9.dbf 248=1005.100e ae0=1ae5.1b15",
   "2=1ae7.1b15 2=1ae9.1b15 2=1aeb.1b15 2=1aed.1b15 4=1af1.1b15 29=1b1a.1b15 2=1b1c.1b15",
   "3=1b1e.1b15 1=1b1f.1b15 2=1b22.1b15 2bd=21.305 1=41.305 1=22.2e7 1=42.2e7 1=22.303 1=42.303",
   "1=22.311 1=42.311 1=a7.2e1 1=c7.2e1 1=24.2e7 1=44.2e7 1=24.303 1=44.303 1=24.311 1=44.311",
   "1=24.307 1=44.307 1=24.30d 1=44.30d 1=f2.2e0 1=f3.2e0 1=f2.2e1 1=f3.2e1 1=25.30d 1=45.30d",
   "1=25.310 1=45.310 1=208.2e6 1=209.2e6 1=26.2e7 1=46.2e7 1=27.2e4 1=47.2e4 1=28.2e7 1=48.2e7",
   "1=28.303 1=48.303 1=28.2e8 1=48.2e8 1=28.307 1=48.307 1=28.30e 1=48.30e 1=29.310 1=49.310",
   "1=af.2e1 1=cf.2e1 1=2b.2e1 1=4b.2e1 1=2b.303 1=4b.303 1=2b.311 1=4b.311 1=2c.303 1=4c.303",
   "1=1e16.2e4 1=1e17.2e4 1=2c.311 1=4c.311 1=2c.30d 1=4c.30d 1=2d.2e1 1=4d.2e1 1=2d.2e7",
   "1=4d.2e7 1=2d.303 1=4d.303 1=2e.2e7 1=4e.2e7 1=2e.303 1=4e.303 1=2e.311 1=4e.311 1=2e.30d",
   "1=4e.30d 1=b5.2e1 1=d5.2e1 1=b5.2e8 1=d5.2e8 1=12c.2e0 1=12d.2e0 1=12c.2e1 1=12d.2e1",
   "1=30.2e1 1=50.2e1 1=30.2e7 1=50.2e7 1=32.2e7 1=52.2e7 1=32.303 1=52.303 1=1e3a.2e4",
   "1=1e3b.2e4 1=32.311 1=52.311 1=33.2e7 1=53.2e7 1=33.303 1=53.303 1=13a.2e7 1=13b.2e7",
   "1=140.2e7 1=141.2e7 1=1e42.2e7 1=1e43.2e7 1=34.2e7 1=54.2e7 1=34.303 1=54.303 1=34.311",
   "1=54.311 1=34.30d 1=54.30d 1=35.304 1=55.304 1=35.310 1=55.310 1=35.30d 1=55.30d 1=148.2e1",
   "1=149.2e1 1=14a.2e8 1=14b.2e8 1=36.2e3 1=56.2e3 1=36.303 1=56.303 1=37.2e0 1=57.2e0",
   "1=37.2e1 1=57.2e1 1=37.2e8 1=57.2e8 1=37.2e7 1=57.2e7 1=37.303 1=57.303 1=38.2e7 1=58.2e7",
   "1=38.2e8 1=58.2e8 1=39.2e7 1=59.2e7 1=3a.2e2 1=5a.2e2 1=3a.303 1=5a.303 1=3a.311 1=5a.311",
   "1=48.311 1=54.2e8 1=57.2ea 1=59.2ea 2=15f.2e7 5=21.303 1=41.303 1=21.2e9 1=41.2e9 1=a2.2e1",
   "1=c2.2e1 1=a2.2e0 1=c2.2e0 1=a2.2e9 1=c2.2e9 1=a2.2e3 1=c2.2e3 1=1e80.2e2 1=1e81.2e2",
   "1=e2.2e1 1=e3.2e1 1=e2.2e0 1=e3.2e0 1=e2.2e9 1=e3.2e9 1=e2.2e3 1=e3.2e3 1=1e80.2e6",
   "1=1e81.2e6 1=25.303 1=45.303 1=25.2e9 1=45.2e9 1=25.2e3 1=45.2e3 1=aa.2e1 1=ca.2e1 1=aa.2e0",
   "1=ca.2e0 1=aa.2e9 1=ca.2e9 1=aa.2e3 1=ca.2e3 1=1e98.2e2 1=1e99.2e2 1=29.2e9 1=49.2e9",
   "1=29.303 1=49.303 1=2f.303 1=4f.303 1=2f.2e9 1=4f.2e9 1=b4.2e1 1=d4.2e1 1=b4.2e0 1=d4.2e0",
   "1=b4.2e9 1=d4.2e9 1=b4.2e3 1=d4.2e3 1=1eac.2e2 1=1ead.2e2 1=180.2e1 1=181.2e1 1=180.2e0",
   "1=181.2e0 1=180.2e9 1=181.2e9 1=180.2e3 1=181.2e3 1=180.303 1=181.303 1=35.303 1=55.303",
   "1=35.2e9 1=55.2e9 1=18f.2e1 1=190.2e1 1=18f.2e0 1=190.2e0 1=18f.2e9 1=190.2e9 1=18f.2e3",
   "1=190.2e3 1=18f.303 1=190.303 1=39.2e0 1=59.2e0 1=39.303 1=59.303 1=39.2e9 1=59.2e9",
   "1=39.2e3 1=59.2e3 7=391.2f3 1=391.2f4 1=1ee0.2e0 1=1ee1.2e0 1=1ee0.2e1 1=1ee1.2e1",
   "1=1ee0.322 1=1ee1.322 1=371.2f3 1=371.2f4 1=1ee8.2e0 1=1ee9.2e0 1=1ee8.2e1 1=1ee9.2e1",
   "1=1ee8.322 1=1ee9.322 1=395.2f3 1=395.2f4 1=1ef0.2e0 1=1ef1.2e0 1=1ef0.2e1 1=1ef1.2e1",
   "3=375.2f3 1=375.2f4 1=1ef8.2e0 1=1ef9.2e0 1=1ef8.2e1 1=1ef9.2e1 3=397.2f3 1=397.2f4",
   "1=1f00.2e0 1=1f01.2e0 1=1f00.2e1 1=1f01.2e1 1=1f00.322 1=1f01.322 1=377.2f3 1=377.2f4",
   "1=1f08.2e0 1=1f09.2e0 1=1f08.2e1 1=1f09.2e1 1=1f08.322 1=1f09.322 1=399.2f3 1=399.2f4",
   "1=1f10.2e0 1=1f11.2e0 1=1f10.2e1 1=1f11.2e1 1=1f10.322 1=1f11.322 1=379.2f3 1=379.2f4",
   "1=1f18.2e0 1=1f19.2e0 1=1f18.2e1 1=1f19.2e1 1=1f18.322 1=1f19.322 1=39f.2f3 1=39f.2f4",
   "1=1f20.2e0 1=1f21.2e0 1=1f20.2e1 1=1f21.2e1 3=37f.2f3 1=37f.2f4 1=1f28.2e0 1=1f29.2e0",
   "1=1f28.2e1 1=1f29.2e1 3=3a5.2f3 1=3a5.2f4 1=1f30.2e0 1=1f31.2e0 1=1f30.2e1 1=1f31.2e1",
   "1=1f30.322 1=1f31.322 2=385.2f4 2=1f39.2e0 2=1f39.2e1 2=1f39.322 1=3a9.2f3 1=3a9.2f4",
   "1=1f40.2e0 1=1f41.2e0 1=1f40.2e1 1=1f41.2e1 1=1f40.322 1=1f41.322 1=389.2f3 1=389.2f4",
   "1=1f48.2e0 1=1f49.2e0 1=1f48.2e1 1=1f49.2e1 1=1f48.322 1=1f49.322 1=391.2e0 2=395.2e0",
   "2=397.2e0 2=399.2e0 2=39f.2e0 2=3a5.2e0 2=3a9.2e0 4=1ee0.325 1=1ee1.325 1=1ee2.325",
   "1=1ee3.325 1=1ee4.325 1=1ee5.325 1=1ee6.325 1=1ee7.325 1=1ee8.325 1=1ee9.325 1=1eea.325",
   "1=1eeb.325 1=1eec.325 1=1eed.325 1=1eee.325 1=1eef.325 1=1f00.325 1=1f01.325 1=1f02.325",
   "1=1f03.325 1=1f04.325 1=1f05.325 1=1f06.325 1=1f07.325 1=1f08.325 1=1f09.325 1=1f0a.325",
   "1=1f0b.325 1=1f0c.325 1=1f0d.325 1=1f0e.325 1=1f0f.325 1=1f40.325 1=1f41.325 1=1f42.325",
   "1=1f43.325 1=1f44.325 1=1f45.325 1=1f46.325 1=1f47.325 1=1f48.325 1=1f49.325 1=1f4a.325",
   "1=1f4b.325 1=1f4c.325 1=1f4d.325 1=1f4e.325 1=1f4f.325 1=391.2e6 1=391.2e4 1=1f50.325",
   "1=391.325 1=38c.325 2=391.322 1=1f96.325 1=371.2e6 1=371.2e4 1=371.2e0 2=371.325 5=88.322",
   "1=1f54.325 1=397.325 1=38e.325 2=397.322 1=1fa6.325 1=375.2e0 2=377.2e0 2=377.325",
   "1=1f9f.2e0 1=1f9f.2e1 1=1f9f.322 1=399.2e6 1=399.2e4 1=3aa.2e0 4=399.322 1=3aa.322",
   "1=379.2e6 1=379.2e4 1=379.2e0 3=1fde.2e0 1=1fde.2e1 1=1fde.322 1=3a5.2e6 1=3a5.2e4",
   "1=3ab.2e0 2=3a1.2f3 1=3a1.2f4 1=3a5.322 1=3ab.322 1=385.2e6 1=385.2e4 1=385.2e0 2=381.2f4",
   "1=88.2e0 5=1f5c.325 1=3a9.325 1=3ae.325 2=3a9.322 1=1fd6.325 1=37f.2e0 2=389.2e0 2=389.325",
   "19e=2170.318 1=2172.318 13=2174.318 1f=21b0.318 1=21b4.318 1=21b2.318 35=21e3.318",
   "5=21e8.318 3=21eb.318 18=2203.318 2=2205.318 1b=221c.318 3=2223.318 3=2225.318 2=2228.318",
   "17=1d.318 2=2241.318 b=222d.318 1=1c.318 1=1e.318 1=2244.318 1=2245.318 3=2252.318",
   "1=2253.318 3=2256.318 1=2257.318 7=225a.318 1=225b.318 3=2262.318 1=2263.318 3=2266.318",
   "1=2267.318 23=2282.318 1=2288.318 1=2289.318 1=228b.318 31=225c.318 1=225d.318 1=2271.318",
   "1=2272.318 7=2292.318 1=2293.318 1=2294.318 1=2295.318 d5f=302b.3079 2=302d.3079",
   "2=302f.3079 2=3031.3079 2=3033.3079 2=3035.3079 2=3037.3079 2=3039.3079 2=303b.3079",
   "2=303d.3079 2=303f.3079 2=3041.3079 3=3044.3079 2=3046.3079 2=3048.3079 7=304f.3079",
   "1=304f.307a 2=3052.3079 1=3052.307a 2=3055.3079 1=3055.307a 2=3058.3079 1=3058.307a",
   "2=305b.3079 1=305b.307a 17=3026.3079 a=307d.3079 e=308b.3079 2=308d.3079 2=308f.3079",
   "2=3091.3079 2=3093.3079 2=3095.3079 2=3097.3079 2=3099.3079 2=309b.3079 2=309d.3079",
   "2=309f.3079 2=30a1.3079 3=30a4.3079 2=30a6.3079 2=30a8.3079 7=30af.3079 1=30af.307a",
   "2=30b2.3079 1=30b2.307a 2=30b5.3079 1=30b5.307a 2=30b8.3079 1=30b8.307a 2=30bb.3079",
   "1=30bb.307a 17=3086.3079 3=30cf.3079 1=30d0.3079 1=30d1.3079 1=30d2.3079 4=30dd.3079",
   "df9c=11079.1109a 2=1107b.1109a f=11085.1109a 83=11111.11107 1=11112.11107 21c=11327.1131e",
   "1=11327.11337 16f=11499.1149a 1=11499.11490 2=11499.1149d fc=11598.1158f 1=11599.1158f",
   "37d=11915.11910"]

def pairsTable : Std.HashMap (List Nat) Nat :=
  Std.HashMap.ofList ((keyed 0x20 pairsRows).map fun (c, pair) => (pair, c))

/-- Runs of marks: the gap to the first, how many there are, and their class. -/
def markRuns : List (Nat × Nat × Nat) :=
  ((wordsOf
  ["300=15.e6 0=1.e8 0=4.dc 0=1.e8 0=1.d8 0=5.dc 0=2.ca 0=4.dc 0=2.ca 0=b.dc 0=5.1 0=4.dc 0=8.e6",
   "0=1.f0 0=1.e6 0=3.dc 0=3.e6 0=2.dc 1=3.e6 0=4.dc 0=1.e6 0=1.e8 0=2.dc 0=1.e6 0=1.e9 0=2.ea",
   "0=1.e9 0=2.ea 0=1.e9 0=d.e6 113=5.e6 109=1.dc 0=4.e6 0=1.dc 0=3.e6 0=1.de 0=1.dc 0=6.e6",
   "0=6.dc 0=2.e6 0=1.dc 0=2.e6 0=1.de 0=1.e4 0=1.e6 0=1.a 0=1.b 0=1.c 0=1.d 0=1.e 0=1.f 0=1.10",
   "0=1.11 0=1.12 0=2.13 0=1.14 0=1.15 0=1.16 1=1.17 1=1.18 0=1.19 1=1.e6 0=1.dc 1=1.12 48=8.e6",
   "0=1.1e 0=1.1f 0=1.20 30=1.1b 0=1.1c 0=1.1d 0=1.1e 0=1.1f 0=1.20 0=1.21 0=1.22 0=2.e6 0=2.dc",
   "0=5.e6 0=1.dc 0=2.e6 0=1.dc 10=1.23 65=7.e6 2=4.e6 0=1.dc 0=1.e6 2=2.e6 1=1.dc 0=2.e6 0=1.dc",
   "23=1.24 1e=1.e6 0=1.dc 0=2.e6 0=1.dc 0=2.e6 0=3.dc 0=1.e6 0=2.dc 0=1.e6 0=1.dc 0=3.e6 0=1.dc",
   "0=1.e6 0=1.dc 0=1.e6 0=1.dc 0=1.e6 0=1.dc 0=2.e6 a0=7.e6 0=1.dc 0=1.e6 9=1.dc 18=4.e6 1=9.e6",
   "1=3.e6 1=5.e6 2b=3.dc 3c=1.e6 0=3.dc 0=4.e6 2a=5.e6 0=5.dc 0=e.e6 1=1.dc 0=2.e6 0=1.dc",
   "0=2.e6 0=1.dc 0=3.e6 0=3.dc 0=1.1b 0=1.1c 0=1.1d 0=3.e6 0=1.dc 0=2.e6 0=2.dc 0=5.e6 3c=1.7",
   "10=1.9 3=1.e6 0=1.dc 0=2.e6 67=1.7 10=1.9 30=1.e6 3d=1.7 10=1.9 6e=1.7 10=1.9 6e=1.7 10=1.9",
   "7f=1.9 6e=1.7 10=1.9 7=1.54 0=1.5b 65=1.7 10=1.9 6d=2.9 10=1.9 7c=1.9 6d=2.67 0=1.9 d=4.6b",
   "6c=2.76 0=1.9 d=4.7a 4c=2.dc 1b=1.dc 1=1.dc 1=1.d8 37=1.81 0=1.82 1=1.84 5=4.82 2=1.82",
   "1=2.e6 0=1.9 1=2.e6 3e=1.dc 70=1.7 1=2.9 52=1.dc 2cf=3.e6 3b4=2.9 1e=1.9 9d=1.9 a=1.e6",
   "cb=1.e4 8f=1.de 0=1.e6 0=1.dc db=1.e6 0=1.dc 47=1.9 14=8.e6 2=1.dc 30=5.e6 0=6.dc 0=2.e6",
   "0=1.dc 1=2.dc 0=2.e6 0=2.dc 0=5.e6 0=1.dc 0=4.e6 65=1.7 f=1.9 26=1.e6 0=1.dc 0=7.e6 36=2.9",
   "3a=1.7 b=2.9 43=1.7 98=3.e6 1=1.1 0=5.dc 0=2.e6 0=4.dc 0=1.e6 1=7.1 4=1.dc 6=1.e6 3=2.e6",
   "c6=2.e6 0=1.dc 0=7.e6 0=1.dc 0=2.e6 0=1.ea 0=1.d6 0=1.dc 0=1.ca 0=25.e6 0=1.e8 0=2.e4 0=1.dc",
   "0=1.da 0=1.e6 0=1.e9 0=1.dc 0=1.e6 0=1.dc 2d0=2.e6 0=2.1 0=4.e6 0=3.1 0=2.e6 4=1.e6 3=2.1",
   "0=1.e6 0=1.dc 0=1.e6 0=2.1 0=4.dc 0=1.e6 bfe=3.e6 8d=1.9 60=20.e6 22a=1.da 0=1.e4 0=1.e8",
   "0=1.de 0=2.e0 69=2.8 75d4=1.e6 4=a.e6 20=2.e6 50=2.e6 114=1.9 25=1.9 97=1.9 1b=12.e6 39=3.dc",
   "25=1.9 5f=1.7 c=1.9 ef=1.e6 1=2.e6 0=1.dc 2=2.e6 5=2.e6 1=1.e6 34=1.9 f6=1.9 4f30=1.1a",
   "301=7.e6 0=7.dc 0=2.e6 3cd=1.dc e2=1.dc 95=5.e6 692=1.dc 1=1.e6 28=1.e6 0=1.1 0=1.dc 4=1.9",
   "a5=1.e6 0=1.dc 23d=4.e6 183=2.e6 99=2.dc 0=3.e6 0=1.dc 0=1.e6 0=4.dc 31=1.e6 0=1.dc 0=1.e6",
   "0=1.dc c0=1.9 29=1.9 e=1.9 39=1.9 0=1.7 45=3.e6 30=2.9 3e=1.7 4c=1.9 9=1.7 6a=1.9 0=1.7",
   "b2=1.7 0=1.9 50=2.7 10=1.9 18=7.e6 3=5.e6 cd=1.9 3=1.7 17=1.e6 63=1.9 0=1.7 fb=1.9 0=1.7",
   "7e=1.9 76=1.9 0=1.7 73=1.9 10d=1.9 0=1.7 102=2.9 4=1.7 9c=1.9 53=1.9 12=1.9 51=1.9 1a5=1.9",
   "102=1.7 1=2.9 51=1.9 4d58=5.1 3b=7.e6 4b9=2.6 4cac=1.1 14c6=2.d8 0=3.1 3=1.e2 0=5.d8 8=8.dc",
   "2=5.e6 0=2.dc 1e=4.e6 94=3.e6 dbb=7.e6 1=11.e6 2=7.e6 1=2.e6 1=5.e6 105=7.e6 177=1.e6",
   "3d=4.e6 5e0=7.dc 6d=6.e6 0=1.7"]).foldl (fun (last, done) w =>
    match keyed 0 [String.ofList w] with
    | [(gap, [count, level])] =>
      (last + gap + count, (last + gap, last + gap + count, level) :: done)
    | _ => (last, done)) (0, [])).2

/-- The class of a mark; what is no mark has class 0. -/
def markClass (n : Nat) : Nat :=
  match markRuns.find? fun (first, stop, _) => first ≤ n && n < stop with
  | some (_, _, level) => level
  | none => 0

/-- The letters of a Hangul syllable. -/
def syllableParts (n : Nat) : List Nat :=
  let s := n - 0xAC00
  let tail := s % 28
  [0x1100 + s / 588, 0x1161 + s % 588 / 28] ++ if tail = 0 then [] else [0x11A7 + tail]

def parts (n : Nat) : List Nat :=
  if 0xAC00 ≤ n ∧ n < 0xAC00 + 11172 then syllableParts n
  else partsTable[n]?.getD [n]

/-- Puts a mark behind those of its class or lower that precede it directly; `done` is reversed. -/
def insertMark (n : Nat) : List Nat → List Nat
  | [] => [n]
  | m :: done =>
    if markClass n ≠ 0 ∧ markClass n < markClass m then m :: insertMark n done else n :: m :: done

def compose? (a b : Nat) : Option Nat :=
  if 0x1100 ≤ a ∧ a < 0x1113 ∧ 0x1161 ≤ b ∧ b < 0x1176 then
    some (0xAC00 + ((a - 0x1100) * 21 + (b - 0x1161)) * 28)
  else if 0xAC00 ≤ a ∧ a < 0xAC00 + 11172 ∧ (a - 0xAC00) % 28 = 0 ∧ 0x11A7 < b ∧ b < 0x11C3 then
    some (a + (b - 0x11A7))
  else pairsTable[[a, b]]?

/-- Composes what follows a starter: `kept` holds, reversed, the marks that did not compose, and
`blocked` is the class of the last of them. -/
def composeFrom (starter : Nat) (kept : List Nat) (blocked : Nat) : List Nat → List Nat
  | [] => starter :: kept.reverse
  | n :: rest =>
    let level := markClass n
    let free := kept.isEmpty || (blocked < level && blocked ≠ 0)
    match if free then compose? starter n else none with
    | some c => composeFrom c kept blocked rest
    | none =>
      if level = 0 then starter :: (kept.reverse ++ composeFrom n [] 0 rest)
      else composeFrom starter (n :: kept) level rest

def composeAll : List Nat → List Nat
  | [] => []
  | n :: rest => if markClass n = 0 then composeFrom n [] 0 rest else n :: composeAll rest

/-- The form under which an identifier is known. -/
def identifierForm (s : String) : String :=
  if s.toList.all (·.toNat < 128) then s
  else
    let apart := s.toList.flatMap fun c => parts c.toNat
    let ordered := (apart.foldl (fun done n => insertMark n done) []).reverse
    String.ofList ((composeAll ordered).map Char.ofNat)

end OpenDocs.Text
