/-! Ranges of the binary character properties of the Unicode Character Database, version 17.0,
that the text functions use, in the encoding of `categoryRanges`. -/

namespace Descent

namespace Unicode

/-- Each property's names, canonical name first, with its ranges. -/
def propertyRanges : List (List String × String) := [
  (["Alphabetic", "Alpha"],
    "1t.p,6.p,1b.0,a.0,4.0,5.m,1.u,1.cp,4.b,e.4,7.0,1.0,2e.0,t.h,1.1,2.3,1.0,6.0,1.2,1.0,1.j,1.2a,1.3" ++
    "u,8.4l,1.11,2.0,6.14,13.d,1.0,1.1,1.1,1.0,8.q,4.3,t.a,5.1j,1.6,e.2t,1.7,4.7,4.2,a.2,2.0,g.1b,d.2" ++
    "s,o.w,9.1,4.0,5.n,2.i,j.o,7.a,5.n,1.6,7.0,8.15,a.b,3.6,6.23,1.f,1.2,4.e,d.i,1.7,2.1,2.l,1.6,1.0," ++
    "3.3,3.7,2.1,2.1,1.0,8.0,4.1,1.4,c.1,a.0,4.2,1.5,4.1,2.l,1.6,1.1,1.1,1.1,4.4,4.1,2.1,4.0,7.3,1.0," ++
    "h.5,b.2,1.8,1.2,1.l,1.6,1.1,1.4,3.8,1.2,1.1,3.0,f.3,l.3,4.2,1.7,2.1,2.l,1.6,1.1,1.4,3.7,2.1,2.1," ++
    "9.1,4.1,1.4,d.0,g.1,1.5,3.2,1.3,3.1,1.0,1.1,3.1,3.2,3.b,4.4,3.2,1.2,3.0,6.0,14.c,1.2,1.m,1.f,3.7" ++
    ",1.2,1.2,8.1,1.2,1.1,2.3,s.3,1.7,1.2,1.m,1.9,1.4,3.7,1.2,1.2,8.1,5.2,1.3,d.2,c.c,1.2,1.14,2.7,1." ++
    "2,1.2,1.0,5.3,7.4,m.5,1.2,1.h,3.n,1.8,1.0,2.6,8.5,1.0,1.7,i.1,d.1l,5.6,6.0,1f.1,1.0,1.4,1.n,1.0," ++
    "1.i,1.2,2.4,1.0,6.0,e.3,w.0,1r.7,1.z,4.i,4.f,1.z,1v.1i,1.0,2.4,g.1r,a.3,2.11,1.0,5.0,2.16,1.98,1" ++
    ".3,2.6,1.0,1.3,2.14,1.3,2.w,1.3,2.6,1.0,1.3,2.e,1.1k,1.3,2.1u,11.f,g.2d,2.5,3.h7,2.g,1.p,5.22,3." ++
    "a,7.j,b.k,c.j,c.c,1.2,1.1,c.1f,2.i,e.0,4.0,1v.2g,7.16,5.1x,a.u,1.b,4.8,n.t,2.4,b.17,4.p,1i.r,4.1" ++
    "q,2.j,1e.0,n.1,b.2,1d.1f,1.e,1.7,1f.15,2.3,a.17,1.a,e.1i,m.2,a.z,2.a,5.16,2.2,15.3,1.5,1.1,3.0,5" ++
    ".5b,j.x,b.7p,2.5,2.11,2.5,2.7,1.0,1.0,1.0,1.u,2.1g,1.6,1.0,3.2,1.6,3.3,2.5,4.c,5.2,1.6,38.0,d.0," ++
    "g.c,2t.0,4.0,2.9,1.0,3.4,6.0,1.0,1.0,1.3,1.a,2.3,5.4,4.0,h.14,ml.1f,1ee.6c,6.3,3.1,c.11,1.0,5.0," ++
    "2.1j,7.0,g.m,9.6,1.6,1.6,1.6,1.6,1.6,1.6,1.6,1.v,1b.0,d1.2,p.8,7.4,2.4,4.2d,6.2,1.2h,1.3,5.16,1." ++
    "2l,h.v,1c.f,e8.533,1s.h3g,1v.19,2.7g,3.f,a.1,k.1a,5.7,3.34,13.8,2.2u,2.29,k.k,1.w,o.1f,c.1v,1.0," ++
    "18.5,3.0,1.2,a.w,5.y,d.s,3.1e,1.b,f.0,g.f,a.4,1.1i,9.d,i.m,3.1w,1.0,1.0,o.2,2.f,2.3,b.5,2.5,2.5," ++
    "9.6,1.6,1.16,1.d,6.3e,l.8mb,c.m,4.1c,6is.a5,2.2x,12.6,c.4,5.b,1.c,1.4,1.0,1.1,1.1,1.2z,x.a2,i.1r" ++
    ",2.1h,14.b,38.4,1.3q,10.p,6.p,b.2g,3.5,2.5,2.5,2.2,z.b,1.p,1.i,1.1,1.e,2.d,y.3e,1x.1g,7f.s,3.1c," ++
    "1b.v,d.t,5.16,5.t,2.z,4.7,1.4,16.4d,i.z,4.z,4.13,8.1f,c.a,1.e,1.6,1.1,1.a,1.e,1.6,1.1,3.1f,c.8m," ++
    "9.l,a.7,o.5,1.15,1.8,1x.5,2.0,1.17,1.1,3.0,2.m,a.m,9.u,1t.i,1.1,a.l,a.p,6.p,12.1j,6.1,1s.3,1.1,5" ++
    ".7,1.2,1.s,16.s,3.s,z.7,1.r,r.1h,a.l,a.i,d.h,32.20,1j.1e,d.1e,d.13,y.r,3.0,5.m,6y.15,1.1,3.1,g.5" ++
    ",1e.2,3.s,a.0,8.l,16.h,1a.k,r.m,9.1x,17.4,a.1k,9.0,d.o,n.1e,h.3,8.y,3.0,9.1r,1.3,9.1,a.0,1.0,z.h" ++
    ",1.x,2.0,6.3,1q.6,1.0,1.3,1.e,1.9,7.1k,n.3,1.7,2.1,2.l,1.6,1.1,1.4,3.7,2.1,2.1,3.0,6.0,5.6,s.9,1" ++
    ".0,2.0,1.11,1.9,1.0,2.0,1.3,1.1,3.0,1.0,18.1t,1.2,1.3,k.2,u.1t,2.1,1.0,54.1h,2.6,p.5,y.1q,1.0,3." ++
    "0,1n.1h,2.0,1z.q,2.d,l.6,55.1k,2v.1r,v.7,2.0,2.7,1.1,1.t,1.1,2.1,2.3,2l.7,2.19,2.5,1.0,1.1,r.1e," ++
    "2.9,h.1z,5.0,i.20,2v.7,2g.w,v.8,1.18,1.6,1.0,1d.t,2.l,1.d,21.6,1.1,1.17,3.0,1.1,1.2,1.0,2.1,o.5," ++
    "1.1,1.10,1.1,1.3,1.0,n.17,78.m,9.g,1.14,3.2,33.0,27.pl,2u.32,h.5f,218.2o,f.tr,h.5,p.32y,5.g6,5a1" ++
    ".1a,1ch.fs,7.u,h.26,h.t,i.1b,g.3,v.k,5.i,c0.18,5v.1r,w.o,2.o,18.22,4.1k,7.g,1s.1,1.0,c.6,9.5p1,1" ++
    "5.v,2p.36,6pp.3,1.6,1.1,1.82,f.0,t.2,2.0,e.3,8.az,1s4.2y,5.c,3.8,7.9,4.0,4m9.2c,1.1y,1.1,2.0,2.1" ++
    ",2.3,1.b,1.0,1.6,1.1s,1.3,2.7,1.6,1.r,1.3,1.4,1.0,3.6,1.9f,2.o,1.o,1.u,1.o,1.u,1.o,1.u,1.o,1.u,1" ++
    ".o,1.7,1f8.u,6.5,5x.6,1.g,2.6,1.1,1.4,5.1p,x.0,34.18,a.6,g.0,8x.t,i.17,dg.r,6c.t,2.0,5r.u,1.l,8." ++
    "1,68.6,1.3,1.1,1.e,1.5g,1n.1v,3.0,3.0,xg.3,1.q,1.1,1.0,2.0,1.9,1.3,1.0,1.0,6.0,4.0,1.0,1.0,1.2,1" ++
    ".1,1.0,2.0,1.0,1.0,1.0,1.0,1.1,1.0,2.3,1.6,1.3,1.3,1.0,1.9,1.g,5.2,1.4,1.g,hg.p,6.p,6.p,2uu.wyn," ++
    "w.3dp,2.4gd,2.5rk,f.h9,1wi.f1,15u.3t6,5.6jt"),
  (["Lowercase", "Lower"],
    "2p.p,1b.0,a.0,4.0,10.n,1.7,1.0,1.0,1.0,1.0,1.0,1.0,1.0,1.0,1.0,1.0,1.0,1.0,1.0,1.0,1.0,1.0,1.0,1" ++
    ".0,1.0,1.0,1.0,1.0,1.0,1.0,1.0,1.0,1.0,1.1,1.0,1.0,1.0,1.0,1.0,1.0,1.0,1.1,1.0,1.0,1.0,1.0,1.0,1" ++
    ".0,1.0,1.0,1.0,1.0,1.0,1.0,1.0,1.0,1.0,1.0,1.0,1.0,1.0,1.0,1.0,1.0,1.0,2.0,1.0,1.2,2.0,1.0,2.0,3" ++
    ".1,4.0,2.0,3.2,2.0,2.0,1.0,1.0,2.0,1.1,1.0,2.0,3.0,1.0,2.1,2.2,6.0,2.0,2.0,1.0,1.0,1.0,1.0,1.0,1" ++
    ".0,1.0,1.1,1.0,1.0,1.0,1.0,1.0,1.0,1.0,1.0,1.1,2.0,1.0,3.0,1.0,1.0,1.0,1.0,1.0,1.0,1.0,1.0,1.0,1" ++
    ".0,1.0,1.0,1.0,1.0,1.0,1.0,1.0,1.0,1.0,1.0,1.0,1.0,1.0,1.0,1.0,1.0,1.0,1.0,1.6,2.0,2.1,1.0,4.0,1" ++
    ".0,1.0,1.0,1.1w,2.y,7.1,u.4,2o.0,17.0,1.0,3.0,2.3,i.0,r.y,1.1,3.2,1.0,1.0,1.0,1.0,1.0,1.0,1.0,1." ++
    "0,1.0,1.0,1.0,1.4,1.0,2.0,2.1,1f.1b,1.0,1.0,1.0,1.0,1.0,1.0,1.0,1.0,1.0,1.0,1.0,1.0,1.0,1.0,1.0," ++
    "1.0,1.0,9.0,1.0,1.0,1.0,1.0,1.0,1.0,1.0,1.0,1.0,1.0,1.0,1.0,1.0,1.0,1.0,1.0,1.0,1.0,1.0,1.0,1.0," ++
    "1.0,1.0,1.0,1.0,1.0,2.0,1.0,1.0,1.0,1.0,1.0,1.1,1.0,1.0,1.0,1.0,1.0,1.0,1.0,1.0,1.0,1.0,1.0,1.0," ++
    "1.0,1.0,1.0,1.0,1.0,1.0,1.0,1.0,1.0,1.0,1.0,1.0,1.0,1.0,1.0,1.0,1.0,1.0,1.0,1.0,1.0,1.0,1.0,1.0," ++
    "1.0,1.0,1.0,1.0,1.0,1.0,1.0,1.0,1.0,1.0,1.0,1.0,1c.14,287.16,1.3,l4.5,1oi.8,1.0,39.5b,1t.0,1.0,1" ++
    ".0,1.0,1.0,1.0,1.0,1.0,1.0,1.0,1.0,1.0,1.0,1.0,1.0,1.0,1.0,1.0,1.0,1.0,1.0,1.0,1.0,1.0,1.0,1.0,1" ++
    ".0,1.0,1.0,1.0,1.0,1.0,1.0,1.0,1.0,1.0,1.0,1.0,1.0,1.0,1.0,1.0,1.0,1.0,1.0,1.0,1.0,1.0,1.0,1.0,1" ++
    ".0,1.0,1.0,1.0,1.0,1.0,1.0,1.0,1.0,1.0,1.0,1.0,1.0,1.0,1.0,1.0,1.0,1.0,1.0,1.0,1.0,1.0,1.0,1.0,1" ++
    ".8,1.0,1.0,1.0,1.0,1.0,1.0,1.0,1.0,1.0,1.0,1.0,1.0,1.0,1.0,1.0,1.0,1.0,1.0,1.0,1.0,1.0,1.0,1.0,1" ++
    ".0,1.0,1.0,1.0,1.0,1.0,1.0,1.0,1.0,1.0,1.0,1.0,1.0,1.0,1.0,1.0,1.0,1.0,1.0,1.0,1.0,1.0,1.0,1.0,1" ++
    ".0,1.8,8.5,a.7,8.7,8.5,a.7,8.7,8.d,2.7,8.7,8.7,8.4,1.1,6.0,3.2,1.1,8.3,2.1,8.7,a.2,1.1,3d.0,d.0," ++
    "g.c,31.0,3.1,3.0,r.0,4.0,4.0,2.1,8.3,4.0,x.f,4.0,nf.p,1fq.1b,1.0,3.1,1.0,1.0,1.0,4.0,1.1,1.7,3.0" ++
    ",1.0,1.0,1.0,1.0,1.0,1.0,1.0,1.0,1.0,1.0,1.0,1.0,1.0,1.0,1.0,1.0,1.0,1.0,1.0,1.0,1.0,1.0,1.0,1.0" ++
    ",1.0,1.0,1.0,1.0,1.0,1.0,1.0,1.0,1.0,1.0,1.0,1.0,1.0,1.0,1.0,1.0,1.0,1.0,1.0,1.0,1.0,1.0,1.0,1.0" ++
    ",1.1,7.0,1.0,4.0,c.11,1.0,5.0,nwz.0,1.0,1.0,1.0,1.0,1.0,1.0,1.0,1.0,1.0,1.0,1.0,1.0,1.0,1.0,1.0," ++
    "1.0,1.0,1.0,1.0,1.0,1.0,1.0,j.0,1.0,1.0,1.0,1.0,1.0,1.0,1.0,1.0,1.0,1.0,1.0,1.0,1.2,3p.0,1.0,1.0" ++
    ",1.0,1.0,1.0,1.2,1.0,1.0,1.0,1.0,1.0,1.0,1.0,1.0,1.0,1.0,1.0,1.0,1.0,1.0,1.0,1.0,1.0,1.0,1.0,1.0" ++
    ",1.0,1.0,1.0,1.0,1.0,1.0,1.0,1.0,1.0,1.0,1.9,1.0,1.0,2.0,1.0,1.0,1.0,1.0,4.0,1.0,2.0,1.2,1.0,1.0" ++
    ",1.0,1.0,1.0,1.0,1.0,1.0,1.0,1.0,5.0,5.0,1.0,1.0,1.0,1.0,1.0,1.0,1.0,4.0,1.0,2.0,1.0,1.0,1.0,1.0" ++
    ",1.0,1.0,1.0,l.3,1.0,1.2,mt.16,1.d,6.27,fnk.6,c.4,tl.p,y5.13,3s.z,4b.a,1.e,1.6,1.1,cj.0,2.2,1.15" ++
    ",1.8,zp.1e,3h.l,27u.v,gw0.v,1n.o,k06.p,q.6,1.h,q.p,q.3,1.0,1.6,1.a,q.p,q.p,q.p,q.p,q.p,q.p,q.p,q" ++
    ".p,q.r,s.o,1.5,q.o,1.5,q.o,1.5,q.o,1.5,q.o,1.5,1.0,1f8.9,1.j,6.5,79.1p,1pw.x"),
  (["Uppercase", "Upper"],
    "1t.p,2t.m,1.6,x.0,1.0,1.0,1.0,1.0,1.0,1.0,1.0,1.0,1.0,1.0,1.0,1.0,1.0,1.0,1.0,1.0,1.0,1.0,1.0,1." ++
    "0,1.0,1.0,1.0,1.0,1.0,1.0,1.0,2.0,1.0,1.0,1.0,1.0,1.0,1.0,1.0,2.0,1.0,1.0,1.0,1.0,1.0,1.0,1.0,1." ++
    "0,1.0,1.0,1.0,1.0,1.0,1.0,1.0,1.0,1.0,1.0,1.0,1.0,1.0,1.0,1.1,1.0,1.0,3.1,1.0,1.1,1.2,2.3,1.1,1." ++
    "2,3.1,1.1,1.0,1.0,1.1,1.0,2.0,1.1,1.2,1.0,1.1,3.0,7.0,2.0,2.0,2.0,1.0,1.0,1.0,1.0,1.0,1.0,1.0,2." ++
    "0,1.0,1.0,1.0,1.0,1.0,1.0,1.0,1.0,2.0,2.0,1.2,1.0,1.0,1.0,1.0,1.0,1.0,1.0,1.0,1.0,1.0,1.0,1.0,1." ++
    "0,1.0,1.0,1.0,1.0,1.0,1.0,1.0,1.0,1.0,1.0,1.0,1.0,1.0,1.0,1.0,1.0,7.1,1.1,2.0,1.3,1.0,1.0,1.0,1." ++
    "0,81.0,1.0,3.0,8.0,6.0,1.2,1.0,1.1,1.g,1.8,z.0,2.2,3.0,1.0,1.0,1.0,1.0,1.0,1.0,1.0,1.0,1.0,1.0,1" ++
    ".0,5.0,2.0,1.1,2.1e,1c.0,1.0,1.0,1.0,1.0,1.0,1.0,1.0,1.0,1.0,1.0,1.0,1.0,1.0,1.0,1.0,1.0,9.0,1.0" ++
    ",1.0,1.0,1.0,1.0,1.0,1.0,1.0,1.0,1.0,1.0,1.0,1.0,1.0,1.0,1.0,1.0,1.0,1.0,1.0,1.0,1.0,1.0,1.0,1.0" ++
    ",1.0,1.1,1.0,1.0,1.0,1.0,1.0,1.0,2.0,1.0,1.0,1.0,1.0,1.0,1.0,1.0,1.0,1.0,1.0,1.0,1.0,1.0,1.0,1.0" ++
    ",1.0,1.0,1.0,1.0,1.0,1.0,1.0,1.0,1.0,1.0,1.0,1.0,1.0,1.0,1.0,1.0,1.0,1.0,1.0,1.0,1.0,1.0,1.0,1.0" ++
    ",1.0,1.0,1.0,1.0,1.0,1.0,1.0,1.0,2.11,289.11,1.0,5.0,k2.2d,1oz.0,6.16,2.2,8w.0,1.0,1.0,1.0,1.0,1" ++
    ".0,1.0,1.0,1.0,1.0,1.0,1.0,1.0,1.0,1.0,1.0,1.0,1.0,1.0,1.0,1.0,1.0,1.0,1.0,1.0,1.0,1.0,1.0,1.0,1" ++
    ".0,1.0,1.0,1.0,1.0,1.0,1.0,1.0,1.0,1.0,1.0,1.0,1.0,1.0,1.0,1.0,1.0,1.0,1.0,1.0,1.0,1.0,1.0,1.0,1" ++
    ".0,1.0,1.0,1.0,1.0,1.0,1.0,1.0,1.0,1.0,1.0,1.0,1.0,1.0,1.0,1.0,1.0,1.0,1.0,1.0,1.0,1.0,9.0,1.0,1" ++
    ".0,1.0,1.0,1.0,1.0,1.0,1.0,1.0,1.0,1.0,1.0,1.0,1.0,1.0,1.0,1.0,1.0,1.0,1.0,1.0,1.0,1.0,1.0,1.0,1" ++
    ".0,1.0,1.0,1.0,1.0,1.0,1.0,1.0,1.0,1.0,1.0,1.0,1.0,1.0,1.0,1.0,1.0,1.0,1.0,1.0,1.0,1.0,1.0,9.7,8" ++
    ".5,a.7,8.7,8.5,b.0,1.0,1.0,1.0,8.7,20.3,c.3,c.3,c.4,b.3,7a.0,4.0,3.2,2.2,2.0,3.4,6.0,1.0,1.0,1.3" ++
    ",2.3,a.1,5.0,q.f,j.0,mq.p,1f4.1b,1c.0,1.2,2.0,1.0,1.0,1.3,1.0,2.0,8.2,1.0,1.0,1.0,1.0,1.0,1.0,1." ++
    "0,1.0,1.0,1.0,1.0,1.0,1.0,1.0,1.0,1.0,1.0,1.0,1.0,1.0,1.0,1.0,1.0,1.0,1.0,1.0,1.0,1.0,1.0,1.0,1." ++
    "0,1.0,1.0,1.0,1.0,1.0,1.0,1.0,1.0,1.0,1.0,1.0,1.0,1.0,1.0,1.0,1.0,1.0,1.0,8.0,1.0,4.0,nyl.0,1.0," ++
    "1.0,1.0,1.0,1.0,1.0,1.0,1.0,1.0,1.0,1.0,1.0,1.0,1.0,1.0,1.0,1.0,1.0,1.0,1.0,1.0,1.0,j.0,1.0,1.0," ++
    "1.0,1.0,1.0,1.0,1.0,1.0,1.0,1.0,1.0,1.0,1.0,3r.0,1.0,1.0,1.0,1.0,1.0,1.0,3.0,1.0,1.0,1.0,1.0,1.0" ++
    ",1.0,1.0,1.0,1.0,1.0,1.0,1.0,1.0,1.0,1.0,1.0,1.0,1.0,1.0,1.0,1.0,1.0,1.0,1.0,1.0,1.0,1.0,1.0,1.0" ++
    ",1.0,a.0,1.0,1.1,1.0,1.0,1.0,1.0,4.0,1.0,2.0,1.0,3.0,1.0,1.0,1.0,1.0,1.0,1.0,1.0,1.0,1.0,1.4,1.4" ++
    ",1.0,1.0,1.0,1.0,1.0,1.0,1.0,1.3,1.0,1.1,1.0,1.0,1.0,1.0,1.0,1.0,1.0,1.0,o.0,h7v.p,xx.13,3s.z,4c" ++
    ".a,1.e,1.6,1.1,1d6.1e,4d.l,27u.v,gw0.v,1s.o,k07.p,q.p,q.p,q.0,1.1,2.0,2.1,2.3,1.7,q.p,q.1,1.3,2." ++
    "7,1.6,r.1,1.3,1.4,1.0,3.6,r.p,q.p,q.p,q.p,q.p,q.p,u.o,x.o,x.o,x.o,x.o,x.0,3ed.x,1la.p,6.p,6.p"),
  (["White_Space", "WSpace"],
    "9.4,i.0,2s.0,q.0,4bj.0,1vj.a,t.1,5.0,1b.0,334.0"),
  (["Grapheme_Extend", "Gr_Ext"],
    "lc.33,7n.6,7b.18,1.0,1.1,1.1,1.0,20.a,1c.k,g.0,2t.6,2.5,2.1,1.3,z.0,u.q,2j.a,1m.8,9.0,o.3,1.8,1." ++
    "2,1.4,17.2,1n.8,16.n,1.v,1j.0,1.0,4.7,4.0,3.6,a.1,t.0,1m.0,1.0,2.3,8.0,9.0,a.1,q.0,2.1,1l.0,4.1," ++
    "4.1,2.2,3.0,u.1,3.0,b.1,1l.0,4.4,1.1,4.0,k.1,m.5,1.0,1m.0,1.1,1.3,8.0,7.2,a.1,u.0,1n.0,1.0,c.0,9" ++
    ".0,14.0,3.0,1j.0,1.2,5.2,1.3,7.1,b.1,t.0,1m.0,2.1,1.0,3.2,1.3,7.1,b.1,s.1,1l.1,1.0,2.3,8.0,9.0,a" ++
    ".1,t.0,20.0,4.0,2.2,1.0,8.0,29.0,2.6,c.7,2q.0,2.8,b.6,21.1,r.0,1.0,1.0,1j.d,1.4,1.1,5.a,1.z,9.0," ++
    "2u.3,1.5,1.1,2.1,p.1,4.2,g.3,d.0,2.1,6.0,f.0,jj.2,qa.3,s.2,t.1,u.1,1s.1,1.6,8.0,2.a,9.0,19.2,1.0" ++
    ",39.1,y.0,3a.2,4.1,9.0,6.2,63.1,2.0,1m.0,1.6,1.0,1.0,2.7,6.9,2.0,1c.19,2.b,k.3,1c.9,4.2,12.8,c.1" ++
    ",w.3,2.5,1k.0,1.1,3.0,1.4,1k.7,2.1,48.2,1.c,1.6,4.0,6.0,3.1,5i.1r,ek.0,5f.w,2da.2,3x.0,2o.v,fe.5" ++
    ",2x.1,n9w.3,1.9,w.1,28.1,7k.0,3.0,4.0,p.1,5.0,47.1,q.h,d.0,12.7,p.a,1.0,18.2,1c.0,2.3,2.1,2.0,10" ++
    ".0,1v.5,2.1,2.1,c.0,8.0,1b.0,1f.0,1.2,2.1,5.1,1.0,16.1,8.0,6m.0,2.0,4.0,fn4.0,kh.f,g.f,a6.1,gt.0" ++
    ",6a.0,45.4,1ae.2,1.1,5.3,14.2,4.0,4l.1,fx.3,1t.4,8t.1,25.5,1y.a,1d.3,3f.0,1i.e,15.0,2.1,a.2,1d.3" ++
    ",2.1,7.0,1p.2,10.4,1.7,1q.0,c.1,1g.8,1.0,8.3,2.0,2n.2,2.3,6.0,2.0,4d.0,3.7,l.1,1l.1,1.0,1.0,c.0," ++
    "9.0,e.6,3.4,1v.0,2.5,1.0,2.0,1.2,4.2,1.0,e.1,2d.7,2.2,1.0,n.0,29.0,2.5,1.0,2.0,1.1,1.1,6j.0,2.3," ++
    "6.1,1.1,r.1,2d.7,2.0,1.1,2y.0,1.0,2.7,2t.0,1.0,2.3,1.4,77.8,1.1,6t.0,a.3,4.0,40.3,2.1,4.0,w.9,14" ++
    ".5,2.3,8.0,9.5,2.2,1a.c,1.1,5i.0,1.2,1.0,5l.6,1.5,1.0,2a.l,2.6,1.1,1.1,3e.5,3.0,1.1,1.6,1.0,20.1" ++
    ",3.0,1.0,9n.1,b.1,1g.4,5.2,n.0,44l.0,6.e,8ug.b,3.2,1xc.4,1n.6,t4.0,1r.3,29.0,b.1,f57.1,3mp.19,2." ++
    "m,f2.4,3.5,8.7,2.6,u.3,44.2,1iz.1i,4.1d,8.0,e.0,m.4,1.e,11s.6,1.g,2.6,1.1,1.4,2s.0,4g.6,af.0,1p." ++
    "3,e4.3,72.1,6r.0,2.0,7.1,5.0,d6.6,31.6,gzbp.2n,3k.6n"),
  (["Default_Ignorable_Code_Point", "DI"],
    "4t.0,ip.0,jw.0,282.1,18z.1,2d.4,1kr.4,q.4,1d.f,3ck.0,14ez.f,6n.0,4g.0,27.8,119j.3,43z.7,h405.35r")]

end Unicode

end Descent
